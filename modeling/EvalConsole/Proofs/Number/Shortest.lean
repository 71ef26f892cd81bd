/-
The shortest decimals of integers.

A double from `2 ^ 53` on is an integer. Below `10 ^ 16` its neighbours are two apart, so that the
shortest decimal is the integer itself, and in the layout of floats it stands before a point and a
zero. From `10 ^ 16` on it has an exponent.

Main statements:

* `Decimal.text_ofNat`: a decimal that is an integer, written positionally.
* `Binary64.exists_shortest_eq`: the shortest decimal is the integer itself while the doubles are
  at most two apart.
* `Binary64.length_le_point`: from `10 ^ 16` on it has no fewer digits before its point than the
  integer.
-/
import Mathlib.Data.List.TakeWhile
import Mathlib.Tactic.Ring
import EvalConsole.Proofs.Json.Folding
import EvalConsole.Proofs.Number.Digits

namespace EvalConsole

/-! ### Texts of decimals -/

namespace Decimal

variable {layout : Layout}

/-- What is left out of the digits are zeros at their end. -/
theorem exists_zeros (n : ℕ) (exponent : ℤ) :
    ∃ zeros, Nat.toDigits 10 n = (ofNat n exponent).digits ++ List.replicate zeros '0' := by
  set back := (Nat.toDigits 10 n).reverse with hback
  have hzeros : back.takeWhile (· == '0') =
      List.replicate (back.takeWhile (· == '0')).length '0' :=
    List.eq_replicate_iff.mpr ⟨rfl, fun c there => by simpa using List.mem_takeWhile_imp there⟩
  refine ⟨(back.takeWhile (· == '0')).length, ?_⟩
  show Nat.toDigits 10 n = (back.dropWhile (· == '0')).reverse ++ _
  rw [← List.reverse_replicate, ← hzeros, ← List.reverse_append, List.takeWhile_append_dropWhile,
    hback, List.reverse_reverse]

/-- A decimal that is an integer is written positionally as its digits, a point and a zero. -/
theorem text_ofNat {n k : ℕ} (positive : 0 < n) (hleast : layout.least ≤ 0)
    (hgreatest : (Nat.toDigits 10 (n * 10 ^ k)).length ≤ layout.greatest + 1) :
    (ofNat n k).text layout = Nat.toDigits 10 (n * 10 ^ k) ++ ['.', '0'] := by
  obtain ⟨zeros, hdigits⟩ := exists_zeros n k
  have hlength := congrArg List.length hdigits
  rw [List.length_append, List.length_replicate] at hlength
  have hsome : 0 < (Nat.toDigits 10 n).length := Nat.length_toDigits_pos
  rw [Digits.toDigits_mul_pow (by decide) positive, List.length_append,
    List.length_replicate] at hgreatest
  rw [Digits.toDigits_mul_pow (by decide) positive]
  set digits := (ofNat n k).digits
  have hpoint : (ofNat n k).point = ((k + (Nat.toDigits 10 n).length : ℕ) : ℤ) := by
    show (k : ℤ) + (Nat.toDigits 10 n).length = _
    omega
  have htoNat : (ofNat n k).point.toNat = k + (Nat.toDigits 10 n).length := by omega
  have hshort : digits.length ≤ (ofNat n k).point.toNat := by omega
  unfold text
  dsimp only
  rw [if_pos (by omega), if_neg (by omega), List.take_of_length_le hshort,
    List.drop_eq_nil_of_le hshort, htoNat, hlength,
    show k + (digits.length + zeros) - digits.length = zeros + k by omega, hdigits,
    ← List.replicate_append_replicate]
  simp

/-- A decimal beyond the layout is written with an exponent. -/
theorem text_of_greatest_lt (layout : Layout) {d : Decimal} (positive : 0 < d.point)
    (h : layout.greatest + 1 < d.point) :
    ∃ mantissa, d.text layout =
      mantissa ++ 'e' :: '+' :: Nat.toDigits 10 (d.point - 1).natAbs := by
  unfold text
  dsimp only
  rw [if_neg (by omega), if_neg (show ¬d.point - 1 < 0 by omega)]
  exact ⟨_, rfl⟩

end Decimal

/-! ### Shortest decimals -/

/-- A common factor does not change which number is the nearest. -/
theorem nearestEven_mul_left {factor : ℕ} (positive : 0 < factor) (num den : ℕ) :
    nearestEven (factor * num) (factor * den) = nearestEven num den := by
  have hmul (a b : ℕ) : 2 * (factor * a) < factor * b ↔ 2 * a < b := by
    rw [Nat.mul_left_comm, Nat.mul_lt_mul_left positive]
  have hmul' (a b : ℕ) : factor * b < 2 * (factor * a) ↔ b < 2 * a := by
    rw [Nat.mul_left_comm, Nat.mul_lt_mul_left positive]
  simp only [nearestEven, Nat.mul_mod_mul_left, Nat.mul_div_mul_left _ _ positive, hmul, hmul']

theorem nearestEven_one (n : ℕ) : nearestEven n 1 = n := by
  unfold nearestEven
  rw [Nat.mod_one, Nat.div_one, if_pos (by decide)]

namespace Binary64

variable {x : Binary64} {n k m : ℕ}

theorem unitsOfOne_eq : Nat.pow 2 1074 = unitsOfOne := by
  unfold unitsOfOne
  with_reducible rfl

theorem four_mul_unitsOfOne : Nat.pow 2 1076 = 4 * unitsOfOne := by
  decide +kernel

/-- The units of a double that stands for an integer. -/
theorem units_of_toRat {n : ℤ} (h : x.toRat = n) : x.units = n.natAbs * unitsOfOne := by
  rw [toRat_eq_intCast_iff, signedUnits] at h
  have habs := congrArg Int.natAbs h
  rw [Int.natAbs_mul, Int.natAbs_natCast] at habs
  rw [← habs]
  split <;> simp

theorem isZero_of_units (h : x.units = n * unitsOfOne) (positive : 0 < n) : x.isZero = false := by
  rw [isZero, beq_eq_false_iff_ne]
  intro hzero
  rw [units, hzero, Nat.zero_mul] at h
  exact (Nat.mul_pos positive unitsOfOne_pos).ne h

/-- The decimal exponent of an integer is given by its number of digits. -/
theorem decimalExponent_of_units (h : x.units = n * unitsOfOne) (positive : 0 < n) :
    x.decimalExponent = (Nat.toDigits 10 n).length - 1 := by
  have hdigits (p : ℕ) : (Nat.toDigits 10 (n * unitsOfOne * Nat.pow 10 p / unitsOfOne)).length =
      (Nat.toDigits 10 n).length + p := by
    rw [Nat.mul_right_comm, Nat.mul_div_cancel _ unitsOfOne_pos, Nat.pow_eq,
      Digits.toDigits_mul_pow (by decide) positive, List.length_append, List.length_replicate]
  unfold decimalExponent
  rw [h, unitsOfOne_eq, show (401 : ℤ) = (400 : ℕ) + 1 from rfl]
  generalize 400 = p
  rw [hdigits]
  omega

/-! ### Candidates on grids -/

/-- A quarter of a unit is the finest step of an interval. -/
theorem middle_interval (h : x.units = n * unitsOfOne) :
    x.interval.middle = 4 * unitsOfOne * n := by
  show 4 * x.units = _
  rw [h, Nat.mul_comm n, Nat.mul_assoc]

/-- On the grid of a power of ten the candidates are the two neighbours of the integer. -/
theorem onGrid?_of_units (h : x.units = n * unitsOfOne) (k : ℕ) :
    x.interval.onGrid? k =
      match x.interval.holds (n / 10 ^ k) k, x.interval.holds (n / 10 ^ k + 1) k with
      | true, true => some (nearestEven n (10 ^ k))
      | true, false => some (n / 10 ^ k)
      | false, true => some (n / 10 ^ k + 1)
      | false, false => none := by
  have hpos : 0 < 4 * unitsOfOne := Nat.mul_pos (by decide) unitsOfOne_pos
  have hbelow : 4 * unitsOfOne * n / (4 * unitsOfOne * 10 ^ k) = n / 10 ^ k :=
    Nat.mul_div_mul_left _ _ hpos
  have hnearest : nearestEven (4 * unitsOfOne * n) (4 * unitsOfOne * 10 ^ k) =
      nearestEven n (10 ^ k) := nearestEven_mul_left hpos _ _
  have hone : Nat.pow 10 (-(k : ℤ)).toNat = 1 := by
    rw [show (-(k : ℤ)).toNat = 0 by omega, Nat.pow_eq, Nat.pow_zero]
  unfold Interval.onGrid?
  rw [middle_interval h, four_mul_unitsOfOne, Int.toNat_natCast, hone, Nat.pow_eq, Nat.mul_one]
  dsimp only
  rewrite [hbelow, hnearest]
  rfl

/-- No candidate is below the integer by a whole step of its grid. -/
theorem div_le_of_onGrid? (h : x.units = n * unitsOfOne)
    (found : x.interval.onGrid? (k : ℤ) = some m) : n / 10 ^ k ≤ m := by
  rw [onGrid?_of_units h] at found
  split at found
  · rw [← Option.some.inj found]
    exact div_le_nearestEven _ _
  · exact (Option.some.inj found).le
  · rw [← Option.some.inj found]
    exact Nat.le_succ _
  · cases found

/-! ### Doubles two apart -/

/-- From `2 ^ 53` up to `2 ^ 54` the doubles are two apart. -/
theorem gap_of_units (h : x.units = n * unitsOfOne) (low : 2 ^ 53 ≤ n) (high : n < 2 ^ 54) :
    Nat.pow 2 x.scale = 2 * unitsOfOne := by
  have hscale (k one : ℕ) (hone : Nat.pow 2 k = one)
      (hunits : x.significand * 2 ^ x.scale = n * one) : 2 ^ x.scale = 2 * one := by
    rw [Nat.pow_eq] at hone
    have hpos : 0 < one := hone ▸ Nat.two_pow_pos k
    obtain hless | hsame | hmore : x.scale ≤ k ∨ x.scale = k + 1 ∨ k + 2 ≤ x.scale := by omega
    · -- the significand alone would have to be as large as the number
      have hle : 2 ^ x.scale ≤ one := hone ▸ Nat.pow_le_pow_right (by decide) hless
      have hsig : x.significand < 2 ^ 53 := x.significand_lt
      have hsmall : n * one ≤ x.significand * one :=
        hunits ▸ Nat.mul_le_mul_left x.significand hle
      have := Nat.le_of_mul_le_mul_right hsmall hpos
      omega
    · rw [hsame, Nat.pow_succ, hone, Nat.mul_comm]
    · -- a significand of 53 digits makes the number too large
      have hle : 2 ^ (k + 2) ≤ 2 ^ x.scale := Nat.pow_le_pow_right (by decide) hmore
      rw [Nat.pow_add, hone] at hle
      have hsig : 2 ^ 52 ≤ x.significand := x.normal.resolve_left (by omega)
      have hlarge : 2 ^ 52 * (one * 2 ^ 2) ≤ n * one := hunits ▸ Nat.mul_le_mul hsig hle
      rw [Nat.mul_left_comm, Nat.mul_comm] at hlarge
      have := Nat.le_of_mul_le_mul_right hlarge hpos
      omega
  exact hscale _ _ unitsOfOne_eq h

/-- They are the even numbers. -/
theorem even_of_gap (h : x.units = n * unitsOfOne) (hgap : Nat.pow 2 x.scale = 2 * unitsOfOne) :
    Even n := by
  have hunits : x.significand * Nat.pow 2 x.scale = n * unitsOfOne := h
  rw [hgap, ← Nat.mul_assoc, Nat.mul_comm x.significand] at hunits
  rw [← Nat.eq_of_mul_eq_mul_right unitsOfOne_pos hunits]
  exact even_two_mul _

theorem low_interval_ge (x : Binary64) : 4 * x.units ≤ x.interval.low + 2 * Nat.pow 2 x.scale := by
  show 4 * x.units ≤ 4 * x.units - (if x.significand = Nat.pow 2 52 ∧ 0 < x.scale then
    Nat.pow 2 x.scale else 2 * Nat.pow 2 x.scale) + 2 * Nat.pow 2 x.scale
  generalize Nat.pow 2 x.scale = gap
  split <;> omega

/-- What rounds to a double lies in its interval, and perhaps at one of its ends. -/
theorem holds_natCast (i : Interval) (m k : ℕ) :
    i.holds m k = if i.closed then
      decide (i.low ≤ 4 * unitsOfOne * (m * 10 ^ k)) &&
        decide (4 * unitsOfOne * (m * 10 ^ k) ≤ i.high)
    else
      decide (i.low < 4 * unitsOfOne * (m * 10 ^ k)) &&
        decide (4 * unitsOfOne * (m * 10 ^ k) < i.high) := by
  have hvalue : m * (4 * unitsOfOne) * 10 ^ k = 4 * unitsOfOne * (m * 10 ^ k) := by
    rw [Nat.mul_comm m, Nat.mul_assoc]
  have hone : Nat.pow 10 (-(k : ℤ)).toNat = 1 := by
    rw [show (-(k : ℤ)).toNat = 0 by omega, Nat.pow_eq, Nat.pow_zero]
  unfold Interval.holds
  rw [four_mul_unitsOfOne, Int.toNat_natCast, hone, Nat.pow_eq]
  dsimp only
  rw [hvalue, Nat.mul_one, Nat.mul_one]

theorem between_of_holds {i : Interval} (holds : i.holds m k = true) :
    i.low ≤ 4 * unitsOfOne * (m * 10 ^ k) ∧ 4 * unitsOfOne * (m * 10 ^ k) ≤ i.high := by
  rw [holds_natCast] at holds
  split at holds
  · simpa using holds
  · simp only [Bool.and_eq_true, decide_eq_true_eq] at holds
    exact ⟨holds.1.le, holds.2.le⟩

/-- The double itself is inside of its interval. -/
theorem holds_self (h : x.units = n * unitsOfOne) (positive : 0 < n) :
    x.interval.holds n 0 = true := by
  have hgap : 0 < Nat.pow 2 x.scale := Nat.two_pow_pos _
  have hunits : 0 < x.units := h ▸ Nat.mul_pos positive unitsOfOne_pos
  have hlow : x.interval.low < 4 * x.units := by
    show 4 * x.units - (if x.significand = Nat.pow 2 52 ∧ 0 < x.scale then
      Nat.pow 2 x.scale else 2 * Nat.pow 2 x.scale) < 4 * x.units
    split <;> omega
  have hhigh : 4 * x.units < x.interval.high := by
    show 4 * x.units < 4 * x.units + 2 * Nat.pow 2 x.scale
    omega
  have hmiddle : 4 * unitsOfOne * (n * 10 ^ 0) = 4 * x.units := by
    rw [h, Nat.pow_zero, Nat.mul_one, Nat.mul_assoc, Nat.mul_comm n]
  have hholds := holds_natCast x.interval n 0
  rw [hmiddle] at hholds
  refine hholds.trans ?_
  split
  · simp [hlow.le, hhigh.le]
  · simp [hlow, hhigh]

/-- What rounds to such a double is at most one away from it. -/
theorem near_of_holds (h : x.units = n * unitsOfOne)
    (hgap : Nat.pow 2 x.scale = 2 * unitsOfOne) (holds : x.interval.holds m k = true) :
    n ≤ m * 10 ^ k + 1 ∧ m * 10 ^ k ≤ n + 1 := by
  have hpos : 0 < 4 * unitsOfOne := Nat.mul_pos (by decide) unitsOfOne_pos
  obtain ⟨hlow, hhigh⟩ := between_of_holds holds
  have hbelow := low_interval_ge x
  have habove : x.interval.high = 4 * x.units + 2 * Nat.pow 2 x.scale := rfl
  rw [hgap, h] at hbelow habove
  constructor
  · have hle : 4 * unitsOfOne * n ≤ 4 * unitsOfOne * (m * 10 ^ k + 1) := by
      calc 4 * unitsOfOne * n = 4 * (n * unitsOfOne) := by ring
        _ ≤ x.interval.low + 2 * (2 * unitsOfOne) := hbelow
        _ ≤ 4 * unitsOfOne * (m * 10 ^ k) + 2 * (2 * unitsOfOne) := Nat.add_le_add_right hlow _
        _ = 4 * unitsOfOne * (m * 10 ^ k + 1) := by ring
    exact Nat.le_of_mul_le_mul_left hle hpos
  · have hle : 4 * unitsOfOne * (m * 10 ^ k) ≤ 4 * unitsOfOne * (n + 1) := by
      calc 4 * unitsOfOne * (m * 10 ^ k) ≤ x.interval.high := hhigh
        _ = 4 * (n * unitsOfOne) + 2 * (2 * unitsOfOne) := habove
        _ = 4 * unitsOfOne * (n + 1) := by ring
    exact Nat.le_of_mul_le_mul_left hle hpos

/-- On a coarser grid than that of the integers nothing else than the integer rounds to it. -/
theorem mul_pow_of_holds (h : x.units = n * unitsOfOne)
    (hgap : Nat.pow 2 x.scale = 2 * unitsOfOne) (hk : 0 < k)
    (holds : x.interval.holds m k = true) : m * 10 ^ k = n := by
  obtain ⟨hlow, hhigh⟩ := near_of_holds h hgap holds
  -- both are even, and they are at most one apart
  obtain ⟨half, hhalf⟩ := even_of_gap h hgap
  have hten : Even (m * 10 ^ k) := ((even_iff_two_dvd.mpr (by decide)).pow_of_ne_zero hk.ne').mul_left m
  obtain ⟨half', hhalf'⟩ := hten
  omega

theorem onGrid?_zero (h : x.units = n * unitsOfOne) (positive : 0 < n) :
    x.interval.onGrid? 0 = some n := by
  have hgrid := onGrid?_of_units h 0
  rw [Nat.pow_zero, Nat.div_one, nearestEven_one] at hgrid
  refine hgrid.trans ?_
  rw [show x.interval.holds n ((0 : ℕ) : ℤ) = true from holds_self h positive]
  cases x.interval.holds (n + 1) ((0 : ℕ) : ℤ) <;> rfl

/-- The candidate on a grid of powers of ten is the integer. -/
theorem mul_pow_of_onGrid? (h : x.units = n * unitsOfOne) (positive : 0 < n)
    (hgap : Nat.pow 2 x.scale = 2 * unitsOfOne)
    (found : x.interval.onGrid? (k : ℤ) = some m) : m * 10 ^ k = n := by
  obtain rfl | hk := Nat.eq_zero_or_pos k
  · have hsame := (onGrid?_zero h positive).symm.trans found
    rw [Option.some.inj hsame, Nat.pow_zero, Nat.mul_one]
  · have exact {l : ℕ} (holds : x.interval.holds l k = true) : l * 10 ^ k = n :=
      mul_pow_of_holds h hgap hk holds
    rw [onGrid?_of_units h] at found
    split at found
    · rename_i hbelow habove
      -- two neighbours on the grid are not both the integer
      have hten : 0 < 10 ^ k := Nat.pow_pos (by decide)
      have hdiffer := (exact habove).trans (exact hbelow).symm
      rw [Nat.add_mul] at hdiffer
      omega
    · rename_i hbelow habove
      rw [← Option.some.inj found]
      exact exact hbelow
    · rename_i hbelow habove
      rw [← Option.some.inj found]
      exact exact habove
    · cases found

/-! ### The shortest decimal -/

/-- The candidate on the `i`-th of the grids that are tried, from the coarsest on. -/
def candidate? (x : Binary64) (i : ℕ) : Option Decimal :=
  (x.interval.onGrid? (x.decimalExponent - i)).map fun m => .ofNat m (x.decimalExponent - i)

theorem shortest_of_ne_zero (h : x.isZero = false) :
    x.shortest = ((List.range 17).findSome? x.candidate?).getD
      (.ofNat (nearestEven (x.units * Nat.pow 10 (16 - x.decimalExponent).toNat)
        (Nat.pow 2 1074 * Nat.pow 10 (x.decimalExponent - 16).toNat)) (x.decimalExponent - 16)) := by
  unfold shortest
  rw [if_neg (by simp [h])]
  dsimp only
  rw [List.findSome?_map]
  have hcandidate : ((fun k => (x.interval.onGrid? k).map fun m => Decimal.ofNat m k) ∘
      fun i : ℕ => x.decimalExponent - i) = x.candidate? := rfl
  rw [hcandidate]
  cases (List.range 17).findSome? x.candidate? <;> rfl

/-- Below `10 ^ 16` the shortest decimal of a double from `2 ^ 53` on is the integer itself. -/
theorem exists_shortest_eq (h : x.units = n * unitsOfOne) (low : 2 ^ 53 ≤ n) (high : n < 10 ^ 16) :
    ∃ m k : ℕ, m * 10 ^ k = n ∧ x.shortest = .ofNat m k := by
  have positive : 0 < n := by omega
  have hgap := gap_of_units h low (by omega)
  have hlength : (Nat.toDigits 10 n).length = 16 := by
    have hmany : 15 < (Nat.toDigits 10 n).length := Digits.lt_length_of_pow_le (by decide) (by omega)
    have hfew := (Nat.length_toDigits_le_iff (by decide) (by decide)).mpr high
    omega
  have hexponent : x.decimalExponent = 15 := by
    rw [decimalExponent_of_units h positive, hlength]
    rfl
  have hcandidate (i : ℕ) (hi : i < 16) : x.candidate? i =
      (x.interval.onGrid? ((15 - i : ℕ) : ℤ)).map fun m => .ofNat m ((15 - i : ℕ) : ℤ) := by
    rw [candidate?, hexponent, show (15 : ℤ) - i = ((15 - i : ℕ) : ℤ) by omega]
  -- the sixteenth grid is that of the integers, and there the search ends if not before
  have hlast : (x.candidate? 15).isSome = true := by
    rw [hcandidate 15 (by decide), show ((15 - 15 : ℕ) : ℤ) = 0 from rfl, onGrid?_zero h positive]
    rfl
  have hends : ((List.range 16).findSome? x.candidate?).isSome = true :=
    List.findSome?_isSome_iff.mpr ⟨15, by simp, hlast⟩
  obtain ⟨d, hfound⟩ := Option.isSome_iff_exists.mp hends
  obtain ⟨i, hi, hd⟩ := List.exists_of_findSome?_eq_some hfound
  rw [hcandidate i (List.mem_range.mp hi)] at hd
  obtain ⟨m, hgrid, rfl⟩ := Option.map_eq_some_iff.mp hd
  refine ⟨m, 15 - i, mul_pow_of_onGrid? h positive hgap hgrid, ?_⟩
  rw [shortest_of_ne_zero (isZero_of_units h positive), List.range_succ, List.findSome?_append, hfound]
  rfl

/-- From `10 ^ 16` on the shortest decimal is one of the neighbours on a grid of powers of ten that
the integer reaches. -/
theorem exists_shortest_ge (h : x.units = n * unitsOfOne) (large : 10 ^ 16 ≤ n) :
    ∃ m k : ℕ, k < (Nat.toDigits 10 n).length ∧ n / 10 ^ k ≤ m ∧ x.shortest = .ofNat m k := by
  have positive : 0 < n := by omega
  have hlength : 16 < (Nat.toDigits 10 n).length := Digits.lt_length_of_pow_le (by decide) large
  obtain ⟨e, he⟩ : ∃ e, (Nat.toDigits 10 n).length = e + 1 := ⟨_, (Nat.sub_add_cancel (by omega)).symm⟩
  have hexponent : x.decimalExponent = e := by
    rw [decimalExponent_of_units h positive, he]
    omega
  rw [shortest_of_ne_zero (isZero_of_units h positive), hexponent, he]
  cases hfound : (List.range 17).findSome? x.candidate? with
  | some d =>
    obtain ⟨i, hi, hd⟩ := List.exists_of_findSome?_eq_some hfound
    have hless : i < 17 := List.mem_range.mp hi
    rw [candidate?, hexponent, show (e : ℤ) - i = ((e - i : ℕ) : ℤ) by omega] at hd
    obtain ⟨m, hgrid, rfl⟩ := Option.map_eq_some_iff.mp hd
    exact ⟨m, e - i, by omega, div_le_of_onGrid? h hgrid, rfl⟩
  | none =>
    refine ⟨_, e - 16, by omega, ?_, by rw [show (e : ℤ) - 16 = ((e - 16 : ℕ) : ℤ) by omega]; rfl⟩
    refine le_trans (Nat.le_of_eq ?_) (div_le_nearestEven _ _)
    rw [h, unitsOfOne_eq, show (16 - (e : ℤ)).toNat = 0 by omega,
      Int.toNat_natCast, Nat.pow_eq, Nat.pow_eq, Nat.pow_zero, Nat.mul_one,
      Nat.mul_comm n, Nat.mul_div_mul_left _ _ unitsOfOne_pos]

/-- It has no fewer digits before its point than the integer. -/
theorem length_le_point (h : x.units = n * unitsOfOne) (large : 10 ^ 16 ≤ n) :
    (Nat.toDigits 10 n).length ≤ x.shortest.point := by
  obtain ⟨m, k, hk, hm, hshortest⟩ := exists_shortest_ge h large
  obtain ⟨e, he⟩ : ∃ e, (Nat.toDigits 10 n).length = e + 1 :=
    ⟨_, (Nat.sub_add_cancel (by omega)).symm⟩
  have hpow : 10 ^ e ≤ n := Digits.pow_le_of_length_eq (by decide) (by omega) he
  have hdiv : 10 ^ (e - k) ≤ n / 10 ^ k := by
    rw [Nat.le_div_iff_mul_le (Nat.pow_pos (by decide)), ← Nat.pow_add, Nat.sub_add_cancel (by omega)]
    exact hpow
  have hdigits : e - k < (Nat.toDigits 10 m).length :=
    Digits.lt_length_of_pow_le (by decide) (hdiv.trans hm)
  have hpoint : (Decimal.ofNat m k).point = (k : ℤ) + (Nat.toDigits 10 m).length := rfl
  rw [hshortest, hpoint]
  omega

end Binary64

end EvalConsole
