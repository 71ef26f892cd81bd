/-
Numbers as JSON writes them.

A numeral is read in two steps: `Numeral.read` finds its parts in the text, and
`Numeral.value` says which number they denote. Digits are collected into 64 bits;
a digit that no longer fits is dropped, and before the point it counts as a power of
ten. A numeral without fraction and exponent is an integer if it fits into 64 bits,
with a sign into 63; every other one is a float, found by one rounding of the
collected digits and one more by a power of ten.

* `Numeral.value` fails exactly when the float is too large.
-/
import EvalConsole.Json.Error

namespace EvalConsole

namespace Json

/-- What a reader found, and the text after it, which is shorter than before. -/
structure Read (α : Type) (s : List Char) where
  value : α
  rest : List Char
  shorter : rest.length < s.length

namespace Read

/-- The same finding seen from a longer text. -/
def ofShorter {α : Type} {s t : List Char} (found : Read α t) (h : t.length ≤ s.length) :
    Read α s :=
  ⟨found.value, found.rest, Nat.lt_of_lt_of_le found.shorter h⟩

/-- The finding with its value replaced. -/
def map {α β : Type} {s : List Char} (f : α → β) (found : Read α s) : Read β s :=
  ⟨f found.value, found.rest, found.shorter⟩

end Read

/-- The parts of a number: its sign, the digits before the point, those after it if
there is a point, and the exponent with its sign if there is one. -/
structure Numeral where
  negative : Bool
  whole : List Char
  fraction : Option (List Char)
  exponent : Option (Bool × List Char)
  deriving DecidableEq, Repr

namespace Numeral

/-- Splits a text behind its leading digits. -/
def splitDigits (s : List Char) : List Char × List Char :=
  (s.takeWhile Char.isDigit, s.dropWhile Char.isDigit)

theorem length_snd_splitDigits_le (s : List Char) :
    (splitDigits s).2.length ≤ s.length :=
  (List.dropWhile_sublist _).length_le

/-- The digits before the point: a single zero, or digits that start with another one. -/
def readWhole (s : List Char) : Except Fault (Read (List Char) s) :=
  match s with
  | [] => .error ⟨.unfinishedValue, [], 0⟩
  | c :: r =>
    if c = '0' then
      match r with
      | d :: r' =>
        if d.isDigit then .error ⟨.invalidNumber, d :: r', 1⟩
        else .ok ⟨['0'], d :: r', by simp⟩
      | [] => .ok ⟨['0'], [], by simp⟩
    else if c.isDigit then
      .ok ⟨c :: (splitDigits r).1, (splitDigits r).2,
        Nat.lt_succ_of_le (length_snd_splitDigits_le r)⟩
    else .error ⟨.invalidNumber, c :: r, 1⟩

/-- The digits after the point, at least one, and the text after them. -/
def readFraction (s : List Char) :
    Except Fault (Option (List Char) × { r : List Char // r.length ≤ s.length }) :=
  match s with
  | [] => .ok (none, ⟨[], Nat.le_refl _⟩)
  | c :: r =>
    if c = '.' then
      match (splitDigits r).1 with
      | [] => .error ⟨if r.isEmpty then .unfinishedValue else .invalidNumber, r, 1⟩
      | d :: ds => .ok (some (d :: ds), ⟨(splitDigits r).2,
          Nat.le_succ_of_le (length_snd_splitDigits_le r)⟩)
    else .ok (none, ⟨c :: r, Nat.le_refl _⟩)

/-- The sign of an exponent, plus if it is not written. -/
def readSign (s : List Char) : Bool × { r : List Char // r.length ≤ s.length } :=
  match s with
  | [] => (false, ⟨[], Nat.le_refl _⟩)
  | c :: r =>
    if c = '+' then (false, ⟨r, Nat.le_succ _⟩)
    else if c = '-' then (true, ⟨r, Nat.le_succ _⟩)
    else (false, ⟨c :: r, Nat.le_refl _⟩)

/-- The exponent, at least one digit, and the text after it. -/
def readExponent (s : List Char) :
    Except Fault (Option (Bool × List Char) × { r : List Char // r.length ≤ s.length }) :=
  match s with
  | c :: r =>
    if c = 'e' ∨ c = 'E' then
      let (negative, ⟨digits, h⟩) := readSign r
      match (splitDigits digits).1 with
      | [] => .error ⟨if digits.isEmpty then .unfinishedValue else .invalidNumber, digits, 1⟩
      | d :: ds => .ok (some (negative, d :: ds), ⟨(splitDigits digits).2,
          Nat.le_trans (length_snd_splitDigits_le digits) (Nat.le_succ_of_le h)⟩)
    else .ok (none, ⟨c :: r, Nat.le_refl _⟩)
  | [] => .ok (none, ⟨[], Nat.le_refl _⟩)

/-- The parts of the number that a text starts with, behind its sign. -/
def read (negative : Bool) (s : List Char) : Except Fault (Read Numeral s) :=
  match readWhole s with
  | .error fault => .error fault
  | .ok whole =>
    match readFraction whole.rest with
    | .error fault => .error fault
    | .ok (fraction, ⟨afterFraction, h⟩) =>
      match readExponent afterFraction with
      | .error fault => .error fault
      | .ok (exponent, ⟨rest, h'⟩) =>
        .ok ⟨⟨negative, whole.value, fraction, exponent⟩, rest,
          Nat.lt_of_le_of_lt (Nat.le_trans h' h) whole.shorter⟩

/-! ### The number denoted -/

/-- The value of a decimal digit. -/
def digitValue (c : Char) : Nat :=
  c.toNat - '0'.toNat

/-- The largest number of 64 bits. -/
def significandLimit : Nat :=
  Nat.pow 2 64 - 1

/-- The largest exponent that is told apart from larger ones. -/
def exponentLimit : Nat :=
  Nat.pow 2 31 - 1

/-- Appends digits to a number as long as it stays within a limit; the digits from the
first that does not fit are left over. -/
def collect (limit : Nat) : Nat → List Char → Nat × List Char
  | n, [] => (n, [])
  | n, c :: rest =>
    if n * 10 + digitValue c ≤ limit then collect limit (n * 10 + digitValue c) rest
    else (n, c :: rest)

/-- The largest power of ten that is a finite double. -/
def maxPower : Nat :=
  308

/-- The double nearest to a power of ten. -/
def tenPower? (power : Nat) : Option Binary64 :=
  Binary64.ofNat? (Nat.pow 10 power)

/-- A double times a power of ten, if that is finite: beyond the largest power only zero
stays. -/
def scaleUp? (x : Binary64) (power : Nat) : Option Binary64 :=
  if power ≤ maxPower then (tenPower? power).bind x.mul?
  else if x.isZero then some x
  else none

/-- A double divided by the largest power of ten a number of times, then by a last
power; zero stays as it is. -/
def scaleDown? (last : Nat) : (steps : Nat) → Binary64 → Option Binary64
  | 0, x => (tenPower? last).bind x.div?
  | steps + 1, x =>
    if x.isZero then some x
    else ((tenPower? maxPower).bind x.div?).bind (scaleDown? last steps)

/-- The float `± significand · 10 ^ exponent`. -/
def float? (negative : Bool) (significand : Nat) (exponent : Int) : Option Binary64 :=
  match Binary64.ofNat? significand with
  | none => none
  | some x =>
    let scaled :=
      if 0 ≤ exponent then scaleUp? x exponent.toNat
      else
        let steps := (exponent.natAbs - 1) / maxPower
        scaleDown? (exponent.natAbs - steps * maxPower) steps x
    scaled.map fun y => y.withSign negative

/-- The integer that a sign and a significand denote. Minus zero and what is below the
signed 64-bit integers are floats. -/
def integer? (negative : Bool) (significand : Nat) : Option Json :=
  if negative then
    if 0 < significand ∧ significand ≤ Nat.pow 2 63 then some (.int (-(significand : Int)))
    else (Binary64.ofNat? significand).map fun x => .float (x.withSign true)
  else some (.int significand)

/-- The float that was found; without one the number is too large. -/
def finite (found : Option Binary64) : Except (List Char) Json :=
  match found with
  | some x => .ok (.float x)
  | none => .error []

/-- The number that a numeral denotes. If it is too large, the answer is the digits
that were not needed to see that. -/
def value (n : Numeral) : Except (List Char) Json :=
  let (significand, dropped) := collect significandLimit 0 n.whole
  match n.fraction, n.exponent, dropped with
  | none, none, [] =>
    match integer? n.negative significand with
    | some v => .ok v
    | none => .error []
  | _, _, _ =>
    let fraction := n.fraction.getD []
    let (significand, unused) := collect significandLimit significand fraction
    let shift : Int := (dropped.length : Int) - ((fraction.length - unused.length : Nat) : Int)
    let result (exponent : Int) := finite (float? n.negative significand exponent)
    match n.exponent with
    | none => result shift
    | some (negative, digits) =>
      match collect exponentLimit 0 digits with
      | (exponent, []) => result (if negative then shift - exponent else shift + exponent)
      | (_, _ :: unread) =>
        if significand ≠ 0 ∧ negative = false then .error unread
        else .ok (.float (.zero n.negative))

end Numeral

end Json

end EvalConsole
