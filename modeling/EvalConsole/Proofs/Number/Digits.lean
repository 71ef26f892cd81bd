/-
Numbers by their digits.

The digits of a number are those of its quotient by the base, and one for the remainder. Readers
that build a number up from its digits therefore get the number back, as long as what they have
built so far is within their bounds: it is never more than the number.

Main statements:

* `Digits.foldlM_toDigits`: reading digits gives the number that was written.
* `Digits.head?_toDigits`: only zero starts with a zero.
* `Digits.toDigits_mul_pow`: a power of the base behind a number are zeros at its end.
-/
import Mathlib.Algebra.Group.Nat.Defs
import Mathlib.Tactic.Common

namespace EvalConsole.Digits

variable {base n : ℕ}

/-- What holds of single digits, and of a number if of its quotient by the base, holds of all. -/
theorem induction {motive : ℕ → Prop} (large : 1 < base) (single : ∀ n < base, motive n)
    (longer : ∀ n, base ≤ n → motive (n / base) → motive n) (n : ℕ) : motive n := by
  induction n using Nat.strongRecOn with
  | ind n ih =>
    by_cases small : n < base
    · exact single n small
    · have several : base ≤ n := Nat.not_lt.mp small
      have positive : 0 < n := by omega
      exact longer n several (ih (n / base) (Nat.div_lt_self positive large))

/-- The digits of a number are those of numbers below the base. -/
theorem exists_of_mem_toDigits (large : 1 < base) {c : Char} (h : c ∈ Nat.toDigits base n) :
    ∃ d < base, c = Nat.digitChar d := by
  induction n using induction large with
  | single n small =>
    rw [Nat.toDigits_of_lt_base small, List.mem_singleton] at h
    exact ⟨n, small, h⟩
  | longer n several ih =>
    rw [Nat.toDigits_of_base_le large several, List.mem_append, List.mem_singleton] at h
    obtain front | last := h
    · exact ih front
    · exact ⟨n % base, Nat.mod_lt n (by omega), last⟩

/-- Only zero starts with a zero. -/
theorem head?_toDigits (large : 1 < base) (positive : 0 < n) :
    (Nat.toDigits base n).head? ≠ some '0' := by
  induction n using induction large with
  | single n small =>
    rw [Nat.toDigits_of_lt_base small, List.head?_cons, Ne, Option.some_inj,
      Nat.digitChar_eq_zero]
    omega
  | longer n several ih =>
    have front := ih (Nat.div_pos several (by omega))
    obtain ⟨c, rest, written⟩ : ∃ c rest, Nat.toDigits base (n / base) = c :: rest :=
      List.exists_cons_of_ne_nil Nat.toDigits_ne_nil
    rw [written] at front
    rw [Nat.toDigits_of_base_le large several, written]
    exact front

/-- Reading digits gives the number that was written, if each step goes through up to it. -/
theorem foldlM_toDigits {step : ℕ → Char → Option ℕ} (large : 1 < base)
    (h : ∀ k d, d < base → k * base + d ≤ n → step k (Nat.digitChar d) = some (k * base + d)) :
    (Nat.toDigits base n).foldlM step 0 = some n := by
  induction n using induction large with
  | single n small =>
    have only := h 0 n small (by omega)
    rw [Nat.zero_mul, Nat.zero_add] at only
    simp [Nat.toDigits_of_lt_base small, only]
  | longer n several ih =>
    have split : n / base * base + n % base = n := Nat.div_add_mod' n base
    have less : n / base ≤ n := Nat.div_le_self n base
    have front : (Nat.toDigits base (n / base)).foldlM step 0 = some (n / base) :=
      ih fun k d digit bound => h k d digit (Nat.le_trans bound less)
    have last := h (n / base) (n % base) (Nat.mod_lt n (by omega)) (Nat.le_of_eq split)
    simp [Nat.toDigits_of_base_le large several, front, last, split]

/-! ### Powers of the base -/

/-- Times a power of the base there are as many zeros more. -/
theorem toDigits_mul_pow (large : 1 < base) (positive : 0 < n) (k : ℕ) :
    Nat.toDigits base (n * base ^ k) = Nat.toDigits base n ++ List.replicate k '0' := by
  induction k with
  | zero => rw [Nat.pow_zero, Nat.mul_one, List.replicate_zero, List.append_nil]
  | succ k ih =>
    have front : 0 < n * base ^ k := Nat.mul_pos positive (Nat.pow_pos (by omega))
    have zero : Nat.toDigits base 0 = ['0'] := Nat.toDigits_zero base
    rw [List.replicate_succ', ← List.append_assoc, ← ih, ← zero,
      Nat.toDigits_append_toDigits large front (by omega), Nat.pow_succ, Nat.add_zero,
      ← Nat.mul_assoc, Nat.mul_comm base]

/-- A number has more digits than a power of the base that it reaches has zeros. -/
theorem lt_length_of_pow_le (large : 1 < base) {k : ℕ} (h : base ^ k ≤ n) :
    k < (Nat.toDigits base n).length := by
  cases k with
  | zero => exact Nat.length_toDigits_pos
  | succ k =>
    by_contra less
    have short : (Nat.toDigits base n).length ≤ k + 1 := Nat.not_lt.mp less
    have small : n < base ^ (k + 1) := (Nat.length_toDigits_le_iff large k.succ_pos).mp short
    omega

/-- A number reaches the power of the base with one zero less than it has digits. -/
theorem pow_le_of_length_eq (large : 1 < base) (positive : 0 < n) {k : ℕ}
    (h : (Nat.toDigits base n).length = k + 1) : base ^ k ≤ n := by
  cases k with
  | zero =>
    rw [Nat.pow_zero]
    exact positive
  | succ k =>
    by_contra less
    have small : n < base ^ (k + 1) := Nat.not_le.mp less
    have short := (Nat.length_toDigits_le_iff large k.succ_pos).mpr small
    omega

end EvalConsole.Digits
