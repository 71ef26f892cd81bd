/-
Addresses of four bytes are read back.

Main statements:

* `Ipv4.digits?_toDigits`: digits in a radix are read as their number.
* `Ipv4.parse?_text`: the text of an address is read as this address.
-/
import EvalConsole.Proofs.Number.Digits
import EvalConsole.Proofs.Text.Fields
import EvalConsole.Url.Ipv4

namespace EvalConsole.Ipv4

variable {radix n : ℕ}

/-! ### Numbers -/

theorem digit?_digitChar (small : radix ≤ 16) {d : ℕ} (h : d < radix) :
    digit? radix (Nat.digitChar d) = some d := by
  have all : ∀ radix ≤ 16, ∀ d < radix, digit? radix (Nat.digitChar d) = some d := by decide
  exact all radix small d h

/-- Digits in a radix are read as their number. -/
theorem digits?_toDigits (large : 1 < radix) (small : radix ≤ 16) (n : ℕ) :
    digits? radix (Nat.toDigits radix n) = some n := by
  refine Digits.foldlM_toDigits large fun k d digit _ => ?_
  rw [digit?_digitChar small digit]
  rfl

/-- A number in decimal is no octal and no hexadecimal one, since it starts with no zero. -/
theorem number?_toDigits (n : ℕ) : number? (Nat.toDigits 10 n) = some n := by
  have read := digits?_toDigits (by decide : 1 < 10) (by decide) n
  obtain rfl | positive := Nat.eq_zero_or_pos n
  · rfl
  · have nonzero := Digits.head?_toDigits (by decide : 1 < 10) positive
    cases digits : Nat.toDigits 10 n with
    | nil => exact absurd digits Nat.toDigits_ne_nil
    | cons c rest =>
      rw [digits] at read nonzero
      have first : c ≠ '0' := fun zero => nonzero (congrArg some zero)
      unfold number?
      split <;> simp_all

theorem mapM_number? (numbers : List ℕ) :
    (numbers.map (Nat.toDigits 10)).mapM number? = some numbers := by
  induction numbers with
  | nil => rfl
  | cons n numbers ih => simp [List.mapM_cons, number?_toDigits, ih]

/-! ### Addresses -/

/-- The bytes of an address, the first one first. -/
def bytes (address : UInt32) : List ℕ :=
  [3, 2, 1, 0].map fun shift => address.toNat / Nat.pow 256 shift % 256

theorem text_eq (address : UInt32) :
    text address = Text.join '.' ((bytes address).map (Nat.toDigits 10)) :=
  rfl

theorem ofNumbers?_bytes (address : UInt32) : ofNumbers? (bytes address) = some address := by
  have bound : address.toNat < 2 ^ 32 := address.toNat_lt
  have whole : ((address.toNat / Nat.pow 256 3 % 256 * 256 + address.toNat / Nat.pow 256 2 % 256) *
      256 + address.toNat / Nat.pow 256 1 % 256) * 256 + address.toNat / Nat.pow 256 0 % 256 =
      address.toNat := by
    simp only [Nat.pow_eq]
    omega
  have last : ¬ Nat.pow 256 (4 - 3) ≤ address.toNat / Nat.pow 256 0 % 256 := by
    simp only [Nat.pow_eq]
    omega
  have front : ([address.toNat / Nat.pow 256 1 % 256, address.toNat / Nat.pow 256 2 % 256,
      address.toNat / Nat.pow 256 3 % 256].any fun byte => decide (255 < byte)) = false := by
    rw [List.any_eq_false]
    intro byte there
    simp only [List.mem_cons, List.not_mem_nil, or_false] at there
    rw [decide_eq_true_eq]
    omega
  have reversed : (bytes address).reverse = address.toNat / Nat.pow 256 0 % 256 ::
      [address.toNat / Nat.pow 256 1 % 256, address.toNat / Nat.pow 256 2 % 256,
        address.toNat / Nat.pow 256 3 % 256] := rfl
  rw [ofNumbers?, reversed]
  dsimp only [List.length_cons, List.length_nil]
  rw [if_neg (by simp [bytes]), front, if_neg Bool.false_ne_true, if_neg last]
  simp only [List.reverse_cons, List.reverse_nil, List.nil_append, List.cons_append,
    List.foldl_cons, List.foldl_nil, Nat.zero_mul, Nat.zero_add]
  rw [show Nat.pow 256 (4 - 3) = 256 from rfl, whole, UInt32.ofNat_toNat]

theorem splitOn_text (address : UInt32) :
    Text.splitOn (· == '.') (text address) = (bytes address).map (Nat.toDigits 10) := by
  rw [text_eq]
  refine Text.splitOn_join (by simp [bytes]) fun field found c there => ?_
  obtain ⟨byte, -, rfl⟩ := List.mem_map.mp found
  rintro rfl
  have digit : '.'.isDigit = true := Nat.isDigit_of_mem_toDigits (by decide) (by decide) there
  cases digit

theorem parts_text (address : UInt32) :
    parts (text address) = (bytes address).map (Nat.toDigits 10) := by
  rw [parts, splitOn_text]
  simp [bytes, Nat.toDigits_ne_nil]

/-- The text of an address ends in a number, -/
theorem endsInNumber_text (address : UInt32) : endsInNumber (text address) = true := by
  have last : (parts (text address)).getLast? =
      some (Nat.toDigits 10 (address.toNat / Nat.pow 256 0 % 256)) := by
    rw [parts_text]
    rfl
  rw [endsInNumber, last]
  simp [number?_toDigits]

/-- and is read as this address. -/
theorem parse?_text (address : UInt32) : parse? (text address) = some address := by
  rw [parse?, parts_text, mapM_number?]
  exact ofNumbers?_bytes address

end EvalConsole.Ipv4
