/-
Finite double-precision numbers, held exactly.

A finite double is `± significand · 2 ^ scale / 2 ^ 1074` with a significand
below `2 ^ 53`; asking for a significand of at least `2 ^ 52` whenever the scale
is positive makes the form unique up to the sign of zero, so equality of doubles is
equality of their fields.

* `Binary64.round?` rounds a fraction to the nearest double, ties to an even
  significand; `none` says that the fraction is beyond the largest double.
* `Binary64.mul?`, `Binary64.div?`, `Binary64.ofNat?` are its instances.
* `Binary64.toInt?` is the integer that a double equals, if there is one.

Design notes
------------
Everything is arithmetic on `Nat`: no operation on hardware floats is used, so
every statement about a double is a statement about natural numbers.
-/

namespace EvalConsole

/-- A finite double: `± significand · 2 ^ scale / 2 ^ 1074`. -/
structure Binary64 where
  /-- Whether the sign is minus; zero has both signs. -/
  negative : Bool
  /-- The digits of the number in base two, at most 53 of them. -/
  significand : Nat
  /-- How far the number is from the finest grid of doubles, `2 ^ (-1074)`. -/
  scale : Nat
  significand_lt : significand < Nat.pow 2 53
  scale_le : scale ≤ 2045
  normal : scale = 0 ∨ Nat.pow 2 52 ≤ significand
  deriving DecidableEq

/-- The natural number nearest to `num / den`; a tie goes to the even neighbour. -/
def nearestEven (num den : Nat) : Nat :=
  if 2 * (num % den) < den then num / den
  else if den < 2 * (num % den) then num / den + 1
  else num / den + num / den % 2

theorem div_le_nearestEven (num den : Nat) : num / den ≤ nearestEven num den := by
  unfold nearestEven
  split
  · exact Nat.le_refl _
  · split <;> omega

namespace Binary64

/-- Zero with the given sign. -/
def zero (negative : Bool) : Binary64 :=
  ⟨negative, 0, 0, by decide, by decide, .inl rfl⟩

/-- The scale at which a multiple of `2 ^ (-1074)` keeps 53 binary digits. -/
def scaleFor (units : Nat) : Nat :=
  units.log2 - 52

theorem le_div_of_scaleFor_pos {units : Nat} (h : 0 < scaleFor units) :
    Nat.pow 2 52 ≤ units / Nat.pow 2 (scaleFor units) := by
  have hlog : units.log2 = 52 + scaleFor units := by
    unfold scaleFor at h ⊢
    omega
  have hne : units ≠ 0 := by
    rintro rfl
    simp [scaleFor] at h
  simp only [Nat.pow_eq]
  rw [Nat.le_div_iff_mul_le (Nat.two_pow_pos _), ← Nat.pow_add, ← hlog]
  exact Nat.log2_self_le hne

/-- The double nearest to `± num / den`, ties to an even significand, or `none` when
that is beyond the largest finite double. The denominator is positive. -/
def round? (negative : Bool) (num den : Nat) : Option Binary64 :=
  let scale := scaleFor (num * Nat.pow 2 1074 / den)
  let significand := nearestEven (num * Nat.pow 2 1074) (den * Nat.pow 2 scale)
  if hsig : significand < Nat.pow 2 53 then
    if hscale : scale ≤ 2045 then
      some ⟨negative, significand, scale, hsig, hscale, by
        rcases Nat.eq_zero_or_pos scale with h | h
        · exact .inl h
        · refine .inr (Nat.le_trans ?_ (div_le_nearestEven _ _))
          rw [← Nat.div_div_eq_div_mul]
          exact le_div_of_scaleFor_pos h⟩
    else none
  else if hscale : scale + 1 ≤ 2045 then
    some ⟨negative, Nat.pow 2 52, scale + 1, by decide, hscale, .inr (Nat.le_refl _)⟩
  else none

/-- The double nearest to a natural number. -/
def ofNat? (n : Nat) : Option Binary64 :=
  round? false n 1

/-- The magnitude in units of `2 ^ (-1074)`. -/
def units (x : Binary64) : Nat :=
  x.significand * Nat.pow 2 x.scale

/-- The rounded product. -/
def mul? (x y : Binary64) : Option Binary64 :=
  round? (x.negative != y.negative) (x.units * y.units) (Nat.pow 2 2148)

/-- The rounded quotient by a number that is not zero. -/
def div? (x y : Binary64) : Option Binary64 :=
  round? (x.negative != y.negative) x.units y.units

/-- The same magnitude with the sign given. -/
def withSign (x : Binary64) (negative : Bool) : Binary64 :=
  { x with negative }

/-- Whether the number is zero, of either sign. -/
def isZero (x : Binary64) : Bool :=
  x.significand == 0

/-- The integer that the number equals, if it has no fraction. -/
def toInt? (x : Binary64) : Option Int :=
  if x.units % Nat.pow 2 1074 = 0 then
    let magnitude : Int := ((x.units / Nat.pow 2 1074 : Nat) : Int)
    some (if x.negative then -magnitude else magnitude)
  else none

end Binary64

end EvalConsole
