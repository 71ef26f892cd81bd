/-
The shortest decimal text of a double.

The doubles cut the line into intervals: each interval holds the reals that round
to one double, its ends included exactly when the significand is even. The text of a
double is the shortest decimal inside its interval; of two of one length, the nearer;
of two equally near, the even one. A decimal of `n` digits inside the interval
exists only if one of the two neighbours of the double on the grid of `n` digits
is inside, so two candidates per length are enough.

* `Binary64.shortest` finds that decimal.
* `Decimal.text` lays it out, positionally or with an exponent.
-/
import EvalConsole.Number.Binary64

namespace EvalConsole

/-- The number `0.d₁d₂… · 10 ^ point` for decimal digits `d₁d₂…`. -/
structure Decimal where
  digits : List Char
  point : Int
  deriving DecidableEq, Repr

namespace Decimal

/-- The decimal `n · 10 ^ exponent`, without zeros at the end of its digits. -/
def ofNat (n : Nat) (exponent : Int) : Decimal :=
  let all := Nat.toDigits 10 n
  ⟨(all.reverse.dropWhile (· == '0')).reverse, exponent + all.length⟩

/-- Where a layout stops writing numbers positionally: the least and the greatest
exponent `e` of `d.ddd · 10 ^ e` for which no exponent is written. -/
structure Layout where
  least : Int
  greatest : Int

/-- The text of a decimal: positional with at least one digit on either side of the
point, or one digit before the point and a signed exponent. -/
def text (layout : Layout) (d : Decimal) : List Char :=
  let exponent := d.point - 1
  if layout.least ≤ exponent ∧ exponent ≤ layout.greatest then
    if d.point ≤ 0 then
      '0' :: '.' :: List.replicate (-d.point).toNat '0' ++ d.digits
    else
      let whole := d.digits.take d.point.toNat
      let fraction := d.digits.drop d.point.toNat
      whole ++ List.replicate (d.point.toNat - whole.length) '0'
        ++ '.' :: (if fraction.isEmpty then ['0'] else fraction)
  else
    let fraction := d.digits.drop 1
    d.digits.take 1 ++ (if fraction.isEmpty then [] else '.' :: fraction)
      ++ 'e' :: (if exponent < 0 then '-' else '+')
      :: Nat.toDigits 10 exponent.natAbs

end Decimal

namespace Binary64

/-- The reals that round to a double, in units of `2 ^ (-1076)`, a quarter of the
finest gap between doubles. -/
structure Interval where
  low : Nat
  middle : Nat
  high : Nat
  /-- Whether the ends round to the double too. -/
  closed : Bool

/-- The interval of a double that is not zero. Below a power of two the doubles lie
twice as close. -/
def interval (x : Binary64) : Interval :=
  let gap := Nat.pow 2 x.scale
  let below := if x.significand = Nat.pow 2 52 ∧ 0 < x.scale then gap else 2 * gap
  { low := 4 * x.units - below
    middle := 4 * x.units
    high := 4 * x.units + 2 * gap
    closed := x.significand % 2 == 0 }

/-- Whether `n · 10 ^ exponent` rounds to the double of the interval. -/
def Interval.holds (i : Interval) (n : Nat) (exponent : Int) : Bool :=
  let value := n * Nat.pow 2 1076 * Nat.pow 10 exponent.toNat
  let unit := Nat.pow 10 (-exponent).toNat
  if i.closed then i.low * unit ≤ value && value ≤ i.high * unit
  else i.low * unit < value && value < i.high * unit

/-- The best multiple of `10 ^ exponent` inside the interval, if there is one. -/
def Interval.onGrid? (i : Interval) (exponent : Int) : Option Nat :=
  let num := i.middle * Nat.pow 10 (-exponent).toNat
  let den := Nat.pow 2 1076 * Nat.pow 10 exponent.toNat
  let below := num / den
  match i.holds below exponent, i.holds (below + 1) exponent with
  | true, true => some (nearestEven num den)
  | true, false => some below
  | false, true => some (below + 1)
  | false, false => none

/-- The exponent `e` with `10 ^ e ≤ x < 10 ^ (e + 1)` for a positive double: every
such double is above `10 ^ (-400)`. -/
def decimalExponent (x : Binary64) : Int :=
  ((Nat.toDigits 10 (x.units * Nat.pow 10 400 / Nat.pow 2 1074)).length : Int) - 401

/-- The shortest decimal that rounds to the magnitude of a double. Seventeen digits
are always enough. -/
def shortest (x : Binary64) : Decimal :=
  if x.isZero then ⟨['0'], 1⟩
  else
    let e := x.decimalExponent
    let grids := (List.range 17).map fun (n : Nat) => e - (n : Int)
    match grids.findSome? fun k => (x.interval.onGrid? k).map fun n => Decimal.ofNat n k with
    | some d => d
    | none => Decimal.ofNat (nearestEven (x.units * Nat.pow 10 (16 - e).toNat)
        (Nat.pow 2 1074 * Nat.pow 10 (e - 16).toNat)) (e - 16)

/-- The shortest text of a double in a layout. -/
def text (layout : Decimal.Layout) (x : Binary64) : List Char :=
  (if x.negative then ['-'] else []) ++ x.shortest.text layout

end Binary64

end EvalConsole
