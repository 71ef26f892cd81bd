/-
What percent signs leave alone.

Main statements:

* `Utf8.encode_of_ascii`: the bytes of ASCII.
* `Percent.decode_of_ascii`: ASCII without a percent sign stands for itself.
* `Percent.fit_of_mem_encode`, `Percent.encode_of_fit`: what has been written for a part of an
  address is not written once more.
-/
import EvalConsole.Proofs.Text.Utf8
import EvalConsole.Url.Percent

namespace EvalConsole

namespace Utf8

variable {s : List Char}

theorem utf8EncodeChar_of_ascii {c : Char} (h : c.toNat < 0x80) :
    String.utf8EncodeChar c = [c.toNat.toUInt8] := by
  have one : c.utf8Size = 1 := by
    rw [Char.utf8Size_eq_one_iff]
    have : c.val.toNat ≤ 127 := by
      have : c.val.toNat = c.toNat := rfl
      omega
    exact UInt32.le_iff_toNat_le.mpr this
  rw [String.utf8EncodeChar_eq_singleton one]
  rfl

theorem toNat_of_ascii {c : Char} (h : c.toNat < 0x80) : c.toNat.toUInt8.toNat = c.toNat := by
  rw [Nat.toUInt8_eq, UInt8.toNat_ofNat']
  omega

theorem encode_of_ascii (h : ∀ c ∈ s, c.toNat < 0x80) :
    encode s = s.map fun c => c.toNat.toUInt8 := by
  induction s with
  | nil => rfl
  | cons c s ih =>
    obtain ⟨first, others⟩ := List.forall_mem_cons.mp h
    have rest := ih others
    rw [encode] at rest ⊢
    rw [List.flatMap_cons, utf8EncodeChar_of_ascii first, rest]
    rfl

end Utf8

namespace Percent

/-- Without a percent sign there is nothing to undo. -/
theorem decodeBytes_of_forall_ne {bytes : List UInt8} (h : ∀ b ∈ bytes, b ≠ 0x25) :
    decodeBytes bytes = bytes := by
  fun_induction decodeBytes bytes with
  | case1 => rfl
  | case2 => rfl
  | case3 => rfl
  | case4 => exact absurd rfl (h _ List.mem_cons_self)
  | case5 => exact absurd rfl (h _ List.mem_cons_self)
  | case6 a b c rest other ih => rw [ih fun d there => h d (List.mem_cons_of_mem _ there)]

/-- ASCII without a percent sign stands for itself. -/
theorem decode_of_ascii {s : List Char} (h : ∀ c ∈ s, c.toNat < 0x80 ∧ c ≠ '%') :
    Utf8.decode (decode s) = .ok (String.ofList s) := by
  have ascii : ∀ c ∈ s, c.toNat < 0x80 := fun c there => (h c there).1
  have plain : ∀ b ∈ Utf8.encode s, b ≠ 0x25 := by
    rw [Utf8.encode_of_ascii ascii]
    intro b there
    obtain ⟨c, inside, rfl⟩ := List.mem_map.mp there
    intro percent
    have number := congrArg UInt8.toNat percent
    rw [Utf8.toNat_of_ascii (ascii c inside)] at number
    exact (h c inside).2 (Char.toNat_inj.mp number)
  rw [decode, decodeBytes_of_forall_ne plain, Utf8.decode_encode]

variable {unfit : Char → Bool} {s : List Char}

theorem encode_of_fit (h : ∀ c ∈ s, unfit c = false) : encode unfit s = s := by
  induction s with
  | nil => rfl
  | cons c s ih =>
    obtain ⟨first, others⟩ := List.forall_mem_cons.mp h
    have rest := ih others
    rw [encode] at rest ⊢
    rw [List.flatMap_cons, rest, first]
    rfl

/-- What is written for a part of an address fits into it, if percent signs and digits do. -/
theorem fit_of_mem_encode (percent : unfit '%' = false)
    (digits : ∀ n < 16, unfit (hexDigit n) = false) {c : Char} (h : c ∈ encode unfit s) :
    unfit c = false := by
  obtain ⟨d, -, there⟩ := List.mem_flatMap.mp h
  split at there
  · obtain ⟨b, -, there⟩ := List.mem_flatMap.mp there
    have small : b.toNat / 16 < 16 := by
      have := b.toNat_lt
      omega
    simp only [encodeByte, List.mem_cons, List.not_mem_nil, or_false] at there
    obtain rfl | rfl | rfl := there
    · exact percent
    · exact digits _ small
    · exact digits _ (Nat.mod_lt _ (by decide))
  · rename_i fit
    obtain rfl := List.mem_singleton.mp there
    exact Bool.not_eq_true _ ▸ fit

end Percent

end EvalConsole
