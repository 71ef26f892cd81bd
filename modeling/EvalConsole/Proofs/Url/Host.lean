/-
Hosts are read back from their texts.

Main statements:

* `Host.IsRead`: the hosts that are read behind `http` and the like.
* `Host.IsRead.parse_text`: their texts are read as these hosts.
* `Host.IsRead.splitPort_text`: no colon outside of brackets is in the text.
-/
import EvalConsole.Proofs.Url.Domain
import EvalConsole.Proofs.Url.Ipv6
import EvalConsole.Proofs.Url.Percent
import EvalConsole.Url.Reader

namespace EvalConsole.Host

open Domain

variable {s : List Char} {host : Host}

/-- The hosts that are read behind `http` and the like: names in their ASCII form that end in no
number, and numeric addresses. -/
inductive IsRead : Host → Prop where
  | name {ascii : List Char} (form : toAscii? ascii = some ascii) (nonempty : ascii ≠ [])
      (noNumber : Ipv4.endsInNumber ascii = false) : IsRead (.name ascii)
  | ipv4 (address : UInt32) : IsRead (.ipv4 address)
  | ipv6 (address : Ipv6) : IsRead (.ipv6 address)

theorem isRead_of_parse (h : parse s = .ok host) : IsRead host := by
  unfold parse at h
  split at h
  · unfold parseBracketed at h
    split at h
    · split at h
      · obtain rfl := Except.ok.inj h
        exact .ipv6 _
      · cases h
    · cases h
  · split at h
    · cases h
    · split at h
      · cases h
      · rename_i form
        unfold ofAscii at h
        split at h
        · cases h
        · rename_i nonempty
          split at h
          · split at h
            · obtain rfl := Except.ok.inj h
              exact .ipv4 _
            · cases h
          · rename_i noNumber
            obtain rfl := Except.ok.inj h
            exact .name (toAscii?_toAscii? form) (by simpa using nonempty)
              (Bool.not_eq_true _ ▸ noNumber)

/-- A text of plain characters is read as the ASCII form that it has. -/
theorem parse_of_plain (h : ∀ c ∈ s, IsPlain c) (form : toAscii? s = some s) :
    parse s = ofAscii s := by
  have decoded : Utf8.decode (Percent.decode s) = .ok (String.ofList s) := by
    refine Percent.decode_of_ascii fun c there => ⟨(h c there).ascii, ?_⟩
    rintro rfl
    exact absurd (h _ there) (by decide)
  unfold parse
  split
  · exact absurd (h '[' List.mem_cons_self) (by decide)
  · rw [decoded]
    dsimp only
    rw [String.toList_ofList, form]

/-! ### Addresses of four bytes -/

theorem plain_toDigits {n : ℕ} {c : Char} (h : c ∈ Nat.toDigits 10 n) :
    (IsPlain c ∧ c ≠ '.') ∧ c ≠ 'x' ∧ isRightToLeft (Unicode.direction c) = false := by
  obtain ⟨d, small, rfl⟩ := Digits.exists_of_mem_toDigits (by decide) h
  have all : ∀ d < 10, (IsPlain (Nat.digitChar d) ∧ Nat.digitChar d ≠ '.') ∧
      Nat.digitChar d ≠ 'x' ∧ isRightToLeft (Unicode.direction (Nat.digitChar d)) = false := by
    decide
  exact all d small

/-- A label of digits. -/
def digitLabel (n : ℕ) : Label :=
  ⟨Nat.toDigits 10 n, Nat.toDigits 10 n⟩

theorem of?_toDigits (n : ℕ) : Label.of? (Nat.toDigits 10 n) = some (digitLabel n) := by
  have unmarked : formMark.isPrefixOf (Nat.toDigits 10 n) = false := by
    rw [← Bool.not_eq_true, List.isPrefixOf_iff_prefix]
    rintro ⟨rest, marked⟩
    have there : 'x' ∈ Nat.toDigits 10 n := by
      rw [← marked]
      exact List.mem_append_left _ List.mem_cons_self
    exact (plain_toDigits there).2.1 rfl
  have ascii : isAscii (Nat.toDigits 10 n) = true :=
    isAscii_iff.mpr fun c there => (plain_toDigits there).1.1.ascii
  rw [Label.of?, unmarked, ascii]
  rfl

/-- The text of an address of four bytes is its own ASCII form. -/
theorem toAscii?_ipv4 (address : UInt32) :
    toAscii? (Ipv4.text address) = some (Ipv4.text address) ∧
      ∀ c ∈ Ipv4.text address, IsPlain c := by
  have asciis : ((Ipv4.bytes address).map digitLabel).map Label.ascii =
      (Ipv4.bytes address).map (Nat.toDigits 10) := by
    rw [List.map_map]
    rfl
  have read (numbers : List ℕ) : (numbers.map (Nat.toDigits 10)).mapM Label.of? =
      some (numbers.map digitLabel) := by
    induction numbers with
    | nil => rfl
    | cons n numbers ih => simp [List.mapM_cons, of?_toDigits, ih]
  have plain : ∀ l ∈ (Ipv4.bytes address).map digitLabel, ∀ c ∈ l.ascii, IsPlain c ∧ c ≠ '.' := by
    intro l found c there
    obtain ⟨n, -, rfl⟩ := List.mem_map.mp found
    exact (plain_toDigits there).1
  have fit : labelsFit ((Ipv4.bytes address).map digitLabel) = true := by
    have noMix : ((Ipv4.bytes address).map digitLabel).any (fun l =>
        l.shown.any fun c => isRightToLeft (Unicode.direction c)) = false := by
      rw [List.any_eq_false]
      intro l found
      obtain ⟨n, -, rfl⟩ := List.mem_map.mp found
      rw [List.any_eq_true]
      rintro ⟨c, there, mixed⟩
      cases (plain_toDigits there).2.2.symm.trans mixed
    rw [labelsFit, noMix]
    rfl
  have whole := toAscii?_join (by simp [Ipv4.bytes]) (by rw [asciis, read]) plain fit
  have plains := plain_join plain
  rw [asciis, ← Ipv4.text_eq] at whole plains
  exact ⟨whole, plains⟩

theorem ipv4_text_ne_nil (address : UInt32) : Ipv4.text address ≠ [] := by
  intro none
  have ends := Ipv4.endsInNumber_text address
  rw [none] at ends
  cases ends

/-! ### Reading the text of a host -/

/-- The text of a host that has been read is read as this host. -/
theorem IsRead.parse_text (h : IsRead host) : parse host.text = .ok host := by
  cases h with
  | @name ascii form nonempty noNumber =>
    rw [text, parse_of_plain (plain_of_toAscii? form) form, ofAscii]
    simp [nonempty, noNumber]
  | ipv4 address =>
    obtain ⟨form, plain⟩ := toAscii?_ipv4 address
    rw [text, parse_of_plain plain form, ofAscii]
    simp [ipv4_text_ne_nil, Ipv4.endsInNumber_text, Ipv4.parse?_text]
  | ipv6 address =>
    show parseBracketed (address.text ++ [']']) = .ok (.ipv6 address)
    rw [parseBracketed]
    simp [Ipv6.parse?_text]

theorem IsRead.text_ne_nil (h : IsRead host) : host.text ≠ [] := by
  cases h with
  | name _ nonempty _ => exact nonempty
  | ipv4 address => exact ipv4_text_ne_nil address
  | ipv6 address => exact List.cons_ne_nil _ _

/-- The characters that a server is read by: what may not stand in a host that is written. -/
def isBoundary (c : Char) : Bool :=
  c.toNat ≤ 0x20 || 0x7E < c.toNat || ['/', '\\', '?', '#', '@'].contains c

theorem not_isBoundary_of_plain {c : Char} (h : IsPlain c) : isBoundary c = false := by
  obtain ⟨ascii, allowed⟩ := h
  simp only [isForbidden, isBoundary, List.contains_eq_mem, List.mem_cons, List.not_mem_nil,
    Bool.or_eq_false_iff, decide_eq_false_iff_not, beq_eq_false_iff_ne, not_or] at allowed ⊢
  refine ⟨⟨allowed.1.1.1, ?_⟩, ?_⟩
  · have := allowed.1.1.2
    omega
  · simp [allowed]

theorem IsRead.not_isBoundary (h : IsRead host) : ∀ c ∈ host.text, isBoundary c = false := by
  cases h with
  | name form _ _ => exact fun c there => not_isBoundary_of_plain (plain_of_toAscii? form c there)
  | ipv4 address =>
    exact fun c there => not_isBoundary_of_plain ((toAscii?_ipv4 address).2 c there)
  | ipv6 address =>
    intro c there
    obtain rfl | there := List.mem_cons.mp there
    · decide
    obtain there | last := List.mem_append.mp there
    · obtain rfl | ⟨d, small, rfl⟩ := Ipv6.exists_of_mem_text there
      · decide
      · have all : ∀ d < 16, isBoundary (Nat.digitChar d) = false := by decide
        exact all d small
    · rw [List.mem_singleton.mp last]
      decide

/-- Nothing is divided where there is no bracket and no colon outside of brackets. -/
theorem splitPort_append {inBrackets : Bool} {front : List Char} (tail : List Char)
    (h : ∀ c ∈ front, c ≠ '[' ∧ c ≠ ']' ∧ (inBrackets = true ∨ c ≠ ':')) :
    Url.splitPort inBrackets (front ++ tail) =
      (front ++ (Url.splitPort inBrackets tail).1, (Url.splitPort inBrackets tail).2) := by
  induction front with
  | nil => rfl
  | cons c front ih =>
    obtain ⟨⟨noOpen, noClose, noColon⟩, others⟩ := List.forall_mem_cons.mp h
    have further : ¬ (c = ':' ∧ (!inBrackets) = true) := by
      rintro ⟨colon, outside⟩
      obtain inside | other := noColon
      · rw [inside] at outside
        cases outside
      · exact other colon
    rw [List.cons_append, Url.splitPort, if_neg further, if_neg noOpen, if_neg noClose]
    dsimp only
    rw [ih others]
    rfl

theorem splitPort_of_head {tail : List Char} (ends : ∀ c ∈ tail.head?, c = ':') :
    Url.splitPort false tail = ([], tail) := by
  cases tail with
  | nil => rfl
  | cons c tail =>
    obtain rfl := ends c rfl
    rfl

/-- The host ends where the port begins, since a colon stands between brackets only. -/
theorem IsRead.splitPort_text (h : IsRead host) {tail : List Char}
    (ends : ∀ c ∈ tail.head?, c = ':') :
    Url.splitPort false (host.text ++ tail) = (host.text, tail) := by
  have of_plain {s : List Char} (plain : ∀ c ∈ s, IsPlain c) :
      Url.splitPort false (s ++ tail) = (s, tail) := by
    rw [splitPort_append tail, splitPort_of_head ends, List.append_nil]
    intro c there
    have := plain c there
    refine ⟨?_, ?_, .inr ?_⟩
    · rintro rfl
      exact absurd this (by decide)
    · rintro rfl
      exact absurd this (by decide)
    · rintro rfl
      exact absurd this (by decide)
  cases h with
  | name form _ _ => exact of_plain (plain_of_toAscii? form)
  | ipv4 address => exact of_plain (toAscii?_ipv4 address).2
  | ipv6 address =>
    have inside : ∀ c ∈ address.text, c ≠ '[' ∧ c ≠ ']' ∧ (true = true ∨ c ≠ ':') := by
      intro c there
      obtain rfl | ⟨d, small, rfl⟩ := Ipv6.exists_of_mem_text there
      · decide
      · have all : ∀ d < 16, Nat.digitChar d ≠ '[' ∧ Nat.digitChar d ≠ ']' := by decide
        exact ⟨(all d small).1, (all d small).2, .inl rfl⟩
    have behind := splitPort_append (']' :: tail) inside
    have closed : Url.splitPort true (']' :: tail) = ([']'], tail) := by
      rw [Url.splitPort]
      simp [splitPort_of_head ends]
    rw [closed] at behind
    have whole : (Host.ipv6 address).text ++ tail = '[' :: (address.text ++ ']' :: tail) := by
      simp [text]
    rw [whole, Url.splitPort]
    simp [behind, text]

end EvalConsole.Host
