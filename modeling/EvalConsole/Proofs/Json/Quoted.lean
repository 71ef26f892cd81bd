/-
Texts in quotes.

What may stand between quotes is described by a relation of a text, the characters that it
stands for, and what is left of it behind the closing quote.

* `Json.Escape` and `Json.Quoted` are the relations.
* `Json.finds_readQuoted_iff`: the reader finds what the relation says, and nothing else.
* `Json.quoted_flatMap_escaped`: what the writer puts between quotes stands for its text.

Design notes
------------
A reader answers with a proof that the rest is shorter; `Json.Finds` forgets it, so that what
is said about a reader is said about the value and the rest alone.
-/
import Mathlib.Tactic.Common
import EvalConsole.Json.Reader
import EvalConsole.Json.Writer

namespace EvalConsole.Json

variable {s rest : List Char}

/-- A reader finds a value, and leaves a rest. -/
def Finds {α : Type} (result : Except Fault (Read α s)) (value : α) (rest : List Char) : Prop :=
  ∃ shorter, result = .ok ⟨value, rest, shorter⟩

section Finds

variable {α : Type} {value : α}

@[simp]
theorem not_finds_error (fault : Fault) :
    ¬ Finds (.error fault : Except Fault (Read α s)) value rest := by
  rintro ⟨_, h⟩
  cases h

@[simp]
theorem finds_ok_iff {a : α} {r : List Char} {h : r.length < s.length} :
    Finds (.ok (⟨a, r, h⟩ : Read α s)) value rest ↔ a = value ∧ r = rest := by
  constructor
  · rintro ⟨_, heq⟩
    cases heq
    exact ⟨rfl, rfl⟩
  · rintro ⟨rfl, rfl⟩
    exact ⟨h, rfl⟩

end Finds

/-! ### Escapes -/

/-- What follows a backslash, the character that it stands for, and what is left. -/
inductive Escape : List Char → Char → List Char → Prop where
  | short {letter c : Char} {rest : List Char} (h : shortEscape? letter = some c) :
      Escape (letter :: rest) c rest
  | hex {a b c d : Char} {n : Nat} {rest : List Char} (h : hexValue4? a b c d = some n)
      (hlow : isLowSurrogate n = false) (hhigh : isHighSurrogate n = false) :
      Escape ('u' :: a :: b :: c :: d :: rest) (Char.ofNat n) rest
  /-- Two numbers that are the halves of a pair. -/
  | pair {a b c d a' b' c' d' : Char} {high low : Nat} {rest : List Char}
      (h : hexValue4? a b c d = some high) (hhigh : isHighSurrogate high = true)
      (h' : hexValue4? a' b' c' d' = some low) (hlow : isLowSurrogate low = true) :
      Escape ('u' :: a :: b :: c :: d :: '\\' :: 'u' :: a' :: b' :: c' :: d' :: rest)
        (ofSurrogates high low) rest

theorem finds_readHex4_iff {n : Nat} :
    Finds (readHex4 s) n rest ↔
      ∃ a b c d, s = a :: b :: c :: d :: rest ∧ hexValue4? a b c d = some n := by
  unfold readHex4
  extract_lets refused
  split
  · rename_i a b c d r
    cases h : hexValue4? a b c d with
    | none =>
      simp only [not_finds_error, false_iff, not_exists]
      rintro _ _ _ _ ⟨heq, hn⟩
      cases heq
      cases h.symm.trans hn
    | some m =>
      simp only [finds_ok_iff]
      constructor
      · rintro ⟨rfl, rfl⟩
        exact ⟨a, b, c, d, rfl, h⟩
      · rintro ⟨_, _, _, _, heq, hn⟩
        cases heq
        exact ⟨Option.some.inj (h.symm.trans hn), rfl⟩
  · rename_i hshort
    simp only [not_finds_error, false_iff, not_exists]
    rintro a b c d ⟨rfl, -⟩
    exact hshort a b c d rest rfl

theorem isLowSurrogate_of_isHighSurrogate {n : Nat} (h : isHighSurrogate n = true) :
    isLowSurrogate n = false := by
  simp only [isHighSurrogate, isLowSurrogate, Bool.and_eq_true, decide_eq_true_eq] at h ⊢
  simp
  omega

theorem finds_readHexEscape_iff {c : Char} :
    Finds (readHexEscape s) c rest ↔ Escape ('u' :: s) c rest := by
  constructor
  · intro hfinds
    unfold readHexEscape at hfinds
    split at hfinds
    · exact absurd hfinds (not_finds_error _)
    · rename_i n r h heq
      obtain ⟨a, b, c, d, rfl, hn⟩ := finds_readHex4_iff.mp ⟨h, heq⟩
      split at hfinds
      · exact absurd hfinds (not_finds_error _)
      · rename_i hlow
        split at hfinds
        · rename_i hhigh
          -- a backslash, the letter and the second half have to follow
          split at hfinds
          · exact absurd hfinds (not_finds_error _)
          split at hfinds
          case isFalse => exact absurd hfinds (not_finds_error _)
          rename_i hback
          split at hfinds
          · exact absurd hfinds (not_finds_error _)
          split at hfinds
          case isFalse => exact absurd hfinds (not_finds_error _)
          rename_i hu
          split at hfinds
          · exact absurd hfinds (not_finds_error _)
          rename_i low r' h' heq'
          split at hfinds
          case isFalse => exact absurd hfinds (not_finds_error _)
          rename_i hlow'
          obtain ⟨a', b', c', d', rfl, hn'⟩ := finds_readHex4_iff.mp ⟨h', heq'⟩
          obtain ⟨rfl, rfl⟩ := finds_ok_iff.mp hfinds
          subst hback hu
          exact .pair hn hhigh hn' hlow'
        · rename_i hhigh
          obtain ⟨rfl, rfl⟩ := finds_ok_iff.mp hfinds
          exact .hex hn (by simpa using hlow) (by simpa using hhigh)
  · intro h
    cases h with
    | short h => cases h
    | hex h hlow hhigh =>
      obtain ⟨_, heq⟩ := finds_readHex4_iff.mpr ⟨_, _, _, _, rfl, h⟩
      unfold readHexEscape
      rw [heq]
      simp [hlow, hhigh]
    | pair h hhigh h' hlow =>
      obtain ⟨_, heq⟩ := finds_readHex4_iff.mpr ⟨_, _, _, _, rfl, h⟩
      have hsecond : Finds (readHex4 (_ :: _ :: _ :: _ :: rest)) _ rest :=
        finds_readHex4_iff.mpr ⟨_, _, _, _, rfl, h'⟩
      obtain ⟨_, heq'⟩ := hsecond
      unfold readHexEscape
      rw [heq]
      simp [isLowSurrogate_of_isHighSurrogate hhigh, hhigh, heq', hlow]

theorem finds_readEscape_iff {c : Char} : Finds (readEscape s) c rest ↔ Escape s c rest := by
  cases s with
  | nil =>
    simp only [readEscape, not_finds_error, false_iff]
    rintro ⟨⟩
  | cons letter r =>
    rw [readEscape]
    split
    · rename_i hu
      subst hu
      rw [← finds_readHexEscape_iff]
      cases readHexEscape r with
      | error fault => simp
      | ok found =>
        obtain ⟨d, r', h⟩ := found
        simp [Read.ofShorter]
    · rename_i hu
      constructor
      · intro hfinds
        split at hfinds
        · rename_i d hd
          obtain ⟨rfl, rfl⟩ := finds_ok_iff.mp hfinds
          exact .short hd
        · exact absurd hfinds (not_finds_error _)
      · intro h
        cases h with
        | short h => simp [h]
        | hex h hlow hhigh => exact absurd rfl hu
        | pair h hhigh h' hlow => exact absurd rfl hu

/-! ### Texts in quotes -/

/-- A text behind an opening quote, the characters before its closing quote, and what is left
behind that. -/
inductive Quoted : List Char → List Char → List Char → Prop where
  | close {rest : List Char} : Quoted ('"' :: rest) [] rest
  | escape {s s' cs rest : List Char} {c : Char} (h : Escape s c s') (h' : Quoted s' cs rest) :
      Quoted ('\\' :: s) (c :: cs) rest
  | plain {s cs rest : List Char} {c : Char} (hquote : c ≠ '"') (hback : c ≠ '\\')
      (hcontrol : 0x20 ≤ c.toNat) (h : Quoted s cs rest) : Quoted (c :: s) (c :: cs) rest

theorem finds_readQuoted_iff {cs : List Char} :
    Finds (readQuoted s) cs rest ↔ Quoted s cs rest := by
  constructor
  · intro hfinds
    fun_induction readQuoted s generalizing cs rest with
    | case1 => exact absurd hfinds (not_finds_error _)
    | case2 r =>
      obtain ⟨rfl, rfl⟩ := finds_ok_iff.mp hfinds
      exact .close
    | case3 => exact absurd hfinds (not_finds_error _)
    | case4 => exact absurd hfinds (not_finds_error _)
    | case5 r d r' h heq ds rest' h' heq' _ ih =>
      obtain ⟨rfl, rfl⟩ := finds_ok_iff.mp hfinds
      exact .escape (finds_readEscape_iff.mp ⟨h, heq⟩) (ih ⟨h', heq'⟩)
    | case6 => exact absurd hfinds (not_finds_error _)
    | case7 => exact absurd hfinds (not_finds_error _)
    | case8 c r hquote hback hcontrol ds rest' h' heq ih =>
      obtain ⟨rfl, rfl⟩ := finds_ok_iff.mp hfinds
      exact .plain hquote hback (Nat.not_lt.mp hcontrol) (ih ⟨h', heq⟩)
  · intro h
    induction h with
    | close =>
      unfold readQuoted
      simp
    | escape h h' ih =>
      obtain ⟨_, heq⟩ := finds_readEscape_iff.mpr h
      obtain ⟨_, heq'⟩ := ih
      unfold readQuoted
      simp [heq, heq']
    | plain hquote hback hcontrol h ih =>
      obtain ⟨_, heq⟩ := ih
      unfold readQuoted
      simp [hquote, hback, Nat.not_lt.mpr hcontrol, heq]

/-! ### What the writer puts between quotes -/

theorem hexValue?_digitChar {n : Nat} (h : n < 16) : hexValue? (Nat.digitChar n) = some n := by
  have hall : ∀ n < 16, hexValue? (Nat.digitChar n) = some n := by decide
  exact hall n h

/-- A control character is written by its number, below 32. -/
theorem hexValue4?_control {n : Nat} (h : n < 0x20) :
    hexValue4? '0' '0' (Nat.digitChar (n / 16)) (Nat.digitChar (n % 16)) = some n := by
  have hzero : hexValue? '0' = some 0 := rfl
  rw [hexValue4?, hzero, hexValue?_digitChar (by omega), hexValue?_digitChar (by omega)]
  show some (((0 * 16 + 0) * 16 + n / 16) * 16 + n % 16) = some n
  congr 1
  omega

/-- A character is written by a letter behind a backslash, by its number, or as it is. -/
theorem escaped_cases (c : Char) :
    (∃ letter, shortEscape? letter = some c ∧ escaped c = ['\\', letter]) ∨
      (c.toNat < 0x20 ∧ escaped c =
        ['\\', 'u', '0', '0', Nat.digitChar (c.toNat / 16), Nat.digitChar (c.toNat % 16)]) ∨
      (c ≠ '"' ∧ c ≠ '\\' ∧ 0x20 ≤ c.toNat ∧ escaped c = [c]) := by
  unfold escaped
  by_cases hquote : c = '"'
  · rw [if_pos hquote]
    exact .inl ⟨'"', congrArg some hquote.symm, rfl⟩
  by_cases hback : c = '\\'
  · rw [if_neg hquote, if_pos hback]
    exact .inl ⟨'\\', congrArg some hback.symm, rfl⟩
  rw [if_neg hquote, if_neg hback]
  split
  · rename_i hb
    exact .inl ⟨'b', congrArg some hb.symm, rfl⟩
  split
  · rename_i hf
    exact .inl ⟨'f', congrArg some hf.symm, rfl⟩
  split
  · rename_i hn
    exact .inl ⟨'n', congrArg some hn.symm, rfl⟩
  split
  · rename_i hr
    exact .inl ⟨'r', congrArg some hr.symm, rfl⟩
  split
  · rename_i ht
    exact .inl ⟨'t', congrArg some ht.symm, rfl⟩
  by_cases hcontrol : c.toNat < 0x20
  · rw [if_pos hcontrol]
    exact .inr (.inl ⟨hcontrol, rfl⟩)
  · rw [if_neg hcontrol]
    exact .inr (.inr ⟨hquote, hback, Nat.not_lt.mp hcontrol, rfl⟩)

/-- What is written for a character stands for it, whatever follows. -/
theorem Quoted.escaped_append {cs : List Char} (h : Quoted s cs rest) (c : Char) :
    Quoted (escaped c ++ s) (c :: cs) rest := by
  obtain ⟨letter, hshort, heq⟩ | ⟨hcontrol, heq⟩ | ⟨hquote, hback, hplain, heq⟩ := escaped_cases c
  · rw [heq]
    exact .escape (.short hshort) h
  · have hlow : isLowSurrogate c.toNat = false := by
      simp [isLowSurrogate]
      omega
    have hhigh : isHighSurrogate c.toNat = false := by
      simp [isHighSurrogate]
      omega
    have hescape : Escape ('u' :: '0' :: '0' :: Nat.digitChar (c.toNat / 16) ::
        Nat.digitChar (c.toNat % 16) :: s) (Char.ofNat c.toNat) s :=
      .hex (hexValue4?_control hcontrol) hlow hhigh
    rw [Char.ofNat_toNat] at hescape
    rw [heq]
    exact .escape hescape h
  · rw [heq]
    exact .plain hquote hback hplain h

/-- What the writer puts between quotes stands for its text. -/
theorem quoted_flatMap_escaped (cs rest : List Char) :
    Quoted (cs.flatMap escaped ++ '"' :: rest) cs rest := by
  induction cs with
  | nil => exact .close
  | cons c cs ih =>
    rw [List.flatMap_cons, List.append_assoc]
    exact ih.escaped_append c

end EvalConsole.Json
