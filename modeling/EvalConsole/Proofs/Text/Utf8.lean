/-
Texts are read back from their bytes.

* `Utf8.pieces_encodeChar_append`: the bytes of a character are one piece, whatever follows.
* `Utf8.decode_encode`: a text is read back from its bytes.

Design notes
------------
The number of bytes of a character depends on its number only, and so do the ranges that its first
byte leaves for the others. Both are compared as numbers. The two narrower ranges of three bytes rule
out numbers that fit into two bytes and those that no character has, and the two of four bytes rule
out numbers that fit into three bytes and those beyond the last character.
-/
import Mathlib.Tactic.Common
import EvalConsole.Text.Utf8

namespace EvalConsole.Utf8

/-! ### Bytes behind the first one -/

/-- A byte lies in a range. -/
def InRange (range : UInt8 × UInt8) (b : UInt8) : Prop :=
  range.1 ≤ b ∧ b ≤ range.2

theorem takeTail_of_inRange {ranges : List (UInt8 × UInt8)} {tail : List UInt8}
    (h : List.Forall₂ InRange ranges tail) (bytes : List UInt8) :
    takeTail ranges (tail ++ bytes) = (tail, .complete, bytes) := by
  induction h with
  | nil => cases bytes <;> rfl
  | cons fits _ ih =>
    rw [List.cons_append, takeTail]
    exact (if_pos fits).trans (by rw [ih])

/-- A first byte and bytes in the ranges that it leaves are one piece. -/
theorem pieces_of_inRange {first : UInt8} {ranges : List (UInt8 × UInt8)} {tail : List UInt8}
    (starts : tails? first = some ranges) (h : List.Forall₂ InRange ranges tail)
    (bytes : List UInt8) :
    pieces (first :: tail ++ bytes) = .char (combine first tail) :: pieces bytes := by
  rw [List.cons_append, pieces, starts]
  simp only [takeTail_of_inRange h bytes]

/-! ### First bytes -/

/-- The range of the second byte of three. -/
def secondOfThree (n : ℕ) : UInt8 × UInt8 :=
  if n = 0xE0 then (0xA0, 0xBF) else if n = 0xED then (0x80, 0x9F) else (0x80, 0xBF)

/-- The range of the second byte of four. -/
def secondOfFour (n : ℕ) : UInt8 × UInt8 :=
  if n = 0xF0 then (0x90, 0xBF) else if n = 0xF4 then (0x80, 0x8F) else (0x80, 0xBF)

theorem tails?_two : ∀ n < 0xE0, 0xC2 ≤ n → tails? (.ofNat n) = some [(0x80, 0xBF)] := by
  decide +kernel

theorem tails?_three : ∀ n < 0xF0, 0xE0 ≤ n →
    tails? (.ofNat n) = some [secondOfThree n, (0x80, 0xBF)] := by
  decide +kernel

theorem tails?_four : ∀ n < 0xF5, 0xF0 ≤ n →
    tails? (.ofNat n) = some [secondOfFour n, (0x80, 0xBF), (0x80, 0xBF)] := by
  decide +kernel

/-! ### Bytes as numbers -/

theorem toNat_ofNat_of_lt {n : ℕ} (h : n < 256) : (UInt8.ofNat n).toNat = n := by
  rw [UInt8.toNat_ofNat']
  exact Nat.mod_eq_of_lt h

theorem inRange_ofNat {low high : UInt8} {n : ℕ} (h : n < 256) :
    InRange (low, high) (.ofNat n) ↔ low.toNat ≤ n ∧ n ≤ high.toNat := by
  rw [InRange, UInt8.le_iff_toNat_le, UInt8.le_iff_toNat_le, toNat_ofNat_of_lt h]

theorem inRange_later (v : ℕ) : InRange (0x80, 0xBF) (.ofNat (v % 64 + 128)) := by
  rw [inRange_ofNat (by omega)]
  constructor
  · show 128 ≤ _
    omega
  · show _ ≤ 191
    omega

theorem inRange_secondOfThree {v : ℕ} (low : 0x7FF < v) (high : v ≤ 0xFFFF)
    (valid : v < 0xD800 ∨ 0xDFFF < v) :
    InRange (secondOfThree (v / 4096 % 16 + 224)) (.ofNat (v / 64 % 64 + 128)) := by
  rw [secondOfThree]
  split
  · rw [inRange_ofNat (by omega)]
    show 160 ≤ _ ∧ _ ≤ 191
    omega
  · split
    · rw [inRange_ofNat (by omega)]
      show 128 ≤ _ ∧ _ ≤ 159
      omega
    · exact inRange_later (v / 64)

theorem inRange_secondOfFour {v : ℕ} (low : 0xFFFF < v) (high : v < 0x110000) :
    InRange (secondOfFour (v / 262144 % 8 + 240)) (.ofNat (v / 4096 % 64 + 128)) := by
  rw [secondOfFour]
  split
  · rw [inRange_ofNat (by omega)]
    show 144 ≤ _ ∧ _ ≤ 191
    omega
  · split
    · rw [inRange_ofNat (by omega)]
      show 128 ≤ _ ∧ _ ≤ 143
      omega
    · exact inRange_later (v / 4096)

/-! ### Characters -/

/-- The bits that a later byte carries. -/
theorem toNat_later (v : ℕ) : (UInt8.ofNat (v % 64 + 128)).toNat % 64 = v % 64 := by
  rw [toNat_ofNat_of_lt (by omega)]
  omega

theorem combine_two {v : ℕ} (high : v ≤ 0x7FF) :
    combine (.ofNat (v / 64 % 32 + 192)) [.ofNat (v % 64 + 128)] = .ofNat v := by
  show Char.ofNat ((UInt8.ofNat _).toNat % 32 * 64 + (UInt8.ofNat _).toNat % 64) = _
  rw [toNat_later, toNat_ofNat_of_lt (by omega)]
  congr 1
  omega

theorem combine_three {v : ℕ} (high : v ≤ 0xFFFF) :
    combine (.ofNat (v / 4096 % 16 + 224))
      [.ofNat (v / 64 % 64 + 128), .ofNat (v % 64 + 128)] = .ofNat v := by
  show Char.ofNat (((UInt8.ofNat _).toNat % 16 * 64 + (UInt8.ofNat _).toNat % 64) * 64 +
    (UInt8.ofNat _).toNat % 64) = _
  rw [toNat_later, toNat_later, toNat_ofNat_of_lt (by omega)]
  congr 1
  omega

theorem combine_four {v : ℕ} (high : v < 0x110000) :
    combine (.ofNat (v / 262144 % 8 + 240)) [.ofNat (v / 4096 % 64 + 128),
      .ofNat (v / 64 % 64 + 128), .ofNat (v % 64 + 128)] = .ofNat v := by
  show Char.ofNat ((((UInt8.ofNat _).toNat % 8 * 64 + (UInt8.ofNat _).toNat % 64) * 64 +
    (UInt8.ofNat _).toNat % 64) * 64 + (UInt8.ofNat _).toNat % 64) = _
  rw [toNat_later, toNat_later, toNat_later, toNat_ofNat_of_lt (by omega)]
  congr 1
  omega

/-- The bytes of a character are one piece, whatever follows. -/
theorem pieces_encodeChar_append (c : Char) (bytes : List UInt8) :
    pieces (String.utf8EncodeChar c ++ bytes) = .char c :: pieces bytes := by
  have valid : c.toNat < 0xD800 ∨ 0xDFFF < c.toNat ∧ c.toNat < 0x110000 := c.valid
  have number : c.val.toNat = c.toNat := rfl
  have same : Char.ofNat c.toNat = c := Char.ofNat_toNat c
  simp only [String.utf8EncodeChar, number]
  generalize c.toNat = v at valid same ⊢
  subst same
  by_cases one : v ≤ 0x7F
  · have starts : tails? (.ofNat v) = some [] := by
      rw [tails?]
      refine if_pos ?_
      rw [UInt8.le_iff_toNat_le, toNat_ofNat_of_lt (by omega)]
      exact one
    have combined : combine (.ofNat v) [] = .ofNat v := by
      show Char.ofNat (UInt8.ofNat v).toNat = _
      rw [toNat_ofNat_of_lt (by omega)]
    rw [if_pos one, pieces_of_inRange starts .nil bytes, combined]
  rw [if_neg one]
  by_cases two : v ≤ 0x7FF
  · rw [if_pos two, pieces_of_inRange (tails?_two _ (by omega) (by omega))
      (.cons (inRange_later v) .nil) bytes, combine_two two]
  rw [if_neg two]
  by_cases three : v ≤ 0xFFFF
  · have second := inRange_secondOfThree (by omega) three (by omega)
    rw [if_pos three, pieces_of_inRange (tails?_three _ (by omega) (by omega))
      (.cons second (.cons (inRange_later v) .nil)) bytes, combine_three three]
  · have second := inRange_secondOfFour (v := v) (by omega) (by omega)
    rw [if_neg three, pieces_of_inRange (tails?_four _ (by omega) (by omega))
      (.cons second (.cons (inRange_later (v / 64)) (.cons (inRange_later v) .nil))) bytes,
      combine_four (by omega)]

/-- The highest bit of every byte is set, unless the character is one of ASCII. -/
theorem le_toNat_of_mem_encodeChar {c : Char} (wide : 0x7F < c.toNat) :
    ∀ b ∈ String.utf8EncodeChar c, 0x80 ≤ b.toNat := by
  have number : c.val.toNat = c.toNat := rfl
  have set {n : ℕ} (bound : n < 256) (high : 0x80 ≤ n) : 0x80 ≤ (UInt8.ofNat n).toNat := by
    rw [toNat_ofNat_of_lt bound]
    exact high
  have later (v : ℕ) : 0x80 ≤ (UInt8.ofNat (v % 64 + 128)).toNat := set (by omega) (by omega)
  simp only [String.utf8EncodeChar, number]
  rw [if_neg (by omega)]
  split
  · simp only [List.forall_mem_cons]
    exact ⟨set (by omega) (by omega), later _, List.forall_mem_nil _⟩
  split
  · simp only [List.forall_mem_cons]
    exact ⟨set (by omega) (by omega), later _, later _, List.forall_mem_nil _⟩
  · simp only [List.forall_mem_cons]
    exact ⟨set (by omega) (by omega), later _, later _, later _, List.forall_mem_nil _⟩

/-- A byte of ASCII stands for itself. -/
theorem toNat_of_mem_encodeChar {c : Char} {b : UInt8} (h : b ∈ String.utf8EncodeChar c)
    (ascii : b.toNat < 0x80) : b.toNat = c.toNat := by
  by_cases wide : 0x7F < c.toNat
  · have high := le_toNat_of_mem_encodeChar wide b h
    omega
  · have number : c.val.toNat = c.toNat := rfl
    simp only [String.utf8EncodeChar, number] at h
    rw [if_pos (by omega), List.mem_singleton] at h
    rw [h, toNat_ofNat_of_lt (by omega)]

/-! ### Texts -/

theorem pieces_encode_append (s : List Char) (bytes : List UInt8) :
    pieces (encode s ++ bytes) = s.map .char ++ pieces bytes := by
  induction s with
  | nil => rfl
  | cons c s ih =>
    rw [encode] at ih ⊢
    rw [List.flatMap_cons, List.append_assoc, pieces_encodeChar_append, ih]
    rfl

theorem collect_map_char (index : ℕ) (s : List Char) : collect index (s.map .char) = .ok s := by
  induction s generalizing index with
  | nil => rfl
  | cons c s ih =>
    rw [List.map_cons, collect, ih]
    rfl

/-- A text is read back from its bytes. -/
theorem decode_encode (s : List Char) : decode (encode s) = .ok (String.ofList s) := by
  have found := pieces_encode_append s []
  have none : pieces [] = [] := by rw [pieces]
  rw [none, List.append_nil, List.append_nil] at found
  rw [decode, found, collect_map_char]
  rfl

end EvalConsole.Utf8
