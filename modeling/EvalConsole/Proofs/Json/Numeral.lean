/-
How numbers are written.

A number is digits without a leading zero, perhaps a point with digits behind it, and perhaps
an exponent. Each part goes on as long as it can, so what is left of the text cannot
continue it.

* `Json.Numeral.Written` is the relation of a text, the parts of the number that it starts
  with, and what is left behind the number.
* `Json.Numeral.finds_read_iff`: the reader finds what the relation says, and nothing else.
-/
import Mathlib.Data.List.TakeWhile
import EvalConsole.Proofs.Json.Quoted

namespace EvalConsole.Json

variable {s rest : List Char}

/-- A reader finds a value, and leaves a rest that may be the whole text. -/
def FindsWithin {α : Type}
    (result : Except Fault (α × { r : List Char // r.length ≤ s.length })) (value : α)
    (rest : List Char) : Prop :=
  ∃ within, result = .ok (value, ⟨rest, within⟩)

section FindsWithin

variable {α : Type} {value : α}

@[simp]
theorem not_findsWithin_error (fault : Fault) :
    ¬ FindsWithin (.error fault : Except Fault (α × { r : List Char // r.length ≤ s.length }))
      value rest := by
  rintro ⟨_, h⟩
  cases h

@[simp]
theorem findsWithin_ok_iff {a : α} {r : List Char} {h : r.length ≤ s.length} :
    FindsWithin (.ok (a, ⟨r, h⟩) : Except Fault (α × { r : List Char // r.length ≤ s.length }))
      value rest ↔ a = value ∧ r = rest := by
  constructor
  · rintro ⟨_, heq⟩
    cases heq
    exact ⟨rfl, rfl⟩
  · rintro ⟨rfl, rfl⟩
    exact ⟨h, rfl⟩

end FindsWithin

namespace Numeral

/-! ### Digits -/

/-- Digits at the start of a text, as many as there are, and what is left. -/
structure Digits (s ds rest : List Char) : Prop where
  text : s = ds ++ rest
  digits : ∀ c ∈ ds, c.isDigit = true
  ended : ∀ c ∈ rest.head?, c.isDigit = false

theorem digits_iff {ds : List Char} :
    Digits s ds rest ↔ (splitDigits s).1 = ds ∧ (splitDigits s).2 = rest := by
  constructor
  · rintro ⟨rfl, hds, hended⟩
    have htake : rest.takeWhile Char.isDigit = [] := by
      cases rest with
      | nil => rfl
      | cons c r => simp [hended c rfl]
    have hdrop : rest.dropWhile Char.isDigit = rest := by
      cases rest with
      | nil => rfl
      | cons c r => simp [hended c rfl]
    constructor
    · rw [splitDigits, List.takeWhile_append_of_pos hds, htake, List.append_nil]
    · rw [splitDigits, List.dropWhile_append_of_pos hds, hdrop]
  · rintro ⟨rfl, rfl⟩
    refine ⟨List.takeWhile_append_dropWhile.symm, fun c => List.mem_takeWhile_imp, fun c hc => ?_⟩
    have hnot := List.head?_dropWhile_not Char.isDigit s
    have hrest : (s.dropWhile Char.isDigit).head? = some c := hc
    rwa [hrest] at hnot

/-! ### Parts -/

/-- The digits before the point. -/
inductive Whole : List Char → List Char → List Char → Prop where
  | zero {rest : List Char} (hended : ∀ c ∈ rest.head?, c.isDigit = false) :
      Whole ('0' :: rest) ['0'] rest
  | digits {c : Char} {s ds rest : List Char} (hc : c.isDigit = true) (hzero : c ≠ '0')
      (h : Digits s ds rest) : Whole (c :: s) (c :: ds) rest

/-- The digits behind the point, if there is a point. -/
inductive Fraction : List Char → Option (List Char) → List Char → Prop where
  | none {s : List Char} (h : ∀ c ∈ s.head?, c ≠ '.') : Fraction s none s
  | some {s ds rest : List Char} (hne : ds ≠ []) (h : Digits s ds rest) :
      Fraction ('.' :: s) (some ds) rest

/-- The sign of an exponent. -/
inductive Sign : List Char → Bool → List Char → Prop where
  | none {s : List Char} (h : ∀ c ∈ s.head?, c ≠ '+' ∧ c ≠ '-') : Sign s false s
  | plus {s : List Char} : Sign ('+' :: s) false s
  | minus {s : List Char} : Sign ('-' :: s) true s

/-- The exponent, if there is one. -/
inductive Exponent : List Char → Option (Bool × List Char) → List Char → Prop where
  | none {s : List Char} (h : ∀ c ∈ s.head?, c ≠ 'e' ∧ c ≠ 'E') : Exponent s none s
  | some {letter : Char} {s s' ds rest : List Char} {negative : Bool}
      (hletter : letter = 'e' ∨ letter = 'E') (hsign : Sign s negative s') (hne : ds ≠ [])
      (h : Digits s' ds rest) : Exponent (letter :: s) (some (negative, ds)) rest

/-- A text behind the sign of a number, the parts of the number, and what is left. -/
def Written (s : List Char) (n : Numeral) (rest : List Char) : Prop :=
  ∃ r r', Whole s n.whole r ∧ Fraction r n.fraction r' ∧ Exponent r' n.exponent rest

theorem finds_readWhole_iff {ds : List Char} :
    Finds (readWhole s) ds rest ↔ Whole s ds rest := by
  cases s with
  | nil =>
    simp only [readWhole, not_finds_error, false_iff]
    rintro ⟨⟩
  | cons c r =>
    unfold readWhole
    dsimp only
    split
    · rename_i hzero
      subst hzero
      have honly : Whole ('0' :: r) ds rest ↔
          (∀ c ∈ r.head?, c.isDigit = false) ∧ ['0'] = ds ∧ r = rest := by
        constructor
        · intro h
          cases h with
          | zero hended => exact ⟨hended, rfl, rfl⟩
          | digits hc hne h => exact absurd rfl hne
        · rintro ⟨hended, rfl, rfl⟩
          exact .zero hended
      rw [honly]
      cases r with
      | nil => simp
      | cons d r' => cases hd : d.isDigit <;> simp [hd]
    · rename_i hzero
      split
      · rename_i hc
        rw [finds_ok_iff]
        constructor
        · rintro ⟨rfl, rfl⟩
          exact .digits hc hzero (digits_iff.mpr ⟨rfl, rfl⟩)
        · intro h
          cases h with
          | zero hended => exact absurd rfl hzero
          | digits hc hne h =>
            obtain ⟨rfl, rfl⟩ := digits_iff.mp h
            exact ⟨rfl, rfl⟩
      · rename_i hc
        simp only [not_finds_error, false_iff]
        intro h
        cases h with
        | zero hended => exact hzero rfl
        | digits hdigit hne h => exact hc hdigit

theorem findsWithin_readFraction_iff {fraction : Option (List Char)} :
    FindsWithin (readFraction s) fraction rest ↔ Fraction s fraction rest := by
  cases s with
  | nil =>
    rw [readFraction, findsWithin_ok_iff]
    constructor
    · rintro ⟨rfl, rfl⟩
      exact .none (by simp)
    · intro h
      cases h with
      | none h => exact ⟨rfl, rfl⟩
  | cons c r =>
    rw [readFraction]
    split
    · rename_i hpoint
      subst hpoint
      split
      · rename_i hnone
        simp only [not_findsWithin_error, false_iff]
        intro h
        cases h with
        | none h => exact h '.' rfl rfl
        | some hne h => exact hne ((digits_iff.mp h).1.symm.trans hnone)
      · rename_i d ds hsome
        rw [findsWithin_ok_iff]
        constructor
        · rintro ⟨rfl, rfl⟩
          exact .some (List.cons_ne_nil d ds) (digits_iff.mpr ⟨hsome, rfl⟩)
        · intro h
          cases h with
          | none h => exact absurd rfl (h '.' rfl)
          | some hne h =>
            obtain ⟨rfl, rfl⟩ := digits_iff.mp h
            exact ⟨congrArg some hsome.symm, rfl⟩
    · rename_i hpoint
      rw [findsWithin_ok_iff]
      constructor
      · rintro ⟨rfl, rfl⟩
        refine .none fun d hd => ?_
        obtain rfl := Option.some.inj hd
        exact hpoint
      · intro h
        cases h with
        | none h => exact ⟨rfl, rfl⟩
        | some hne h => exact absurd rfl hpoint

theorem readSign_iff {negative : Bool} :
    Sign s negative rest ↔ (readSign s).1 = negative ∧ (readSign s).2.1 = rest := by
  cases s with
  | nil =>
    constructor
    · intro h
      cases h with
      | none h => exact ⟨rfl, rfl⟩
    · rintro ⟨rfl, rfl⟩
      exact .none (by simp)
  | cons c r =>
    rw [readSign]
    split
    · rename_i hplus
      subst hplus
      constructor
      · intro h
        cases h with
        | none h => exact absurd rfl (h '+' rfl).1
        | plus => exact ⟨rfl, rfl⟩
      · rintro ⟨rfl, rfl⟩
        exact .plus
    · rename_i hplus
      split
      · rename_i hminus
        subst hminus
        constructor
        · intro h
          cases h with
          | none h => exact absurd rfl (h '-' rfl).2
          | minus => exact ⟨rfl, rfl⟩
        · rintro ⟨rfl, rfl⟩
          exact .minus
      · rename_i hminus
        constructor
        · intro h
          cases h with
          | none h => exact ⟨rfl, rfl⟩
          | plus => exact absurd rfl hplus
          | minus => exact absurd rfl hminus
        · rintro ⟨rfl, rfl⟩
          refine .none fun d hd => ?_
          obtain rfl := Option.some.inj hd
          exact ⟨hplus, hminus⟩

theorem findsWithin_readExponent_iff {exponent : Option (Bool × List Char)} :
    FindsWithin (readExponent s) exponent rest ↔ Exponent s exponent rest := by
  cases s with
  | nil =>
    rw [readExponent, findsWithin_ok_iff]
    constructor
    · rintro ⟨rfl, rfl⟩
      exact .none (by simp)
    · intro h
      cases h with
      | none h => exact ⟨rfl, rfl⟩
  | cons c r =>
    rw [readExponent]
    split
    · rename_i hletter
      obtain ⟨⟨negative, digits, hle⟩, hsign⟩ : ∃ found, readSign r = found := ⟨_, rfl⟩
      have hread : Sign r negative digits := readSign_iff.mpr (by rw [hsign]; exact ⟨rfl, rfl⟩)
      have honly : ∀ other left, Sign r other left → other = negative ∧ left = digits := by
        intro other left h
        obtain ⟨rfl, rfl⟩ := readSign_iff.mp h
        rw [hsign]
        exact ⟨rfl, rfl⟩
      rw [hsign]
      dsimp only
      split
      · rename_i hnone
        simp only [not_findsWithin_error, false_iff]
        intro h
        cases h with
        | none h => exact hletter.elim (h c rfl).1 (h c rfl).2
        | some hl hsign' hne h =>
          obtain ⟨rfl, rfl⟩ := honly _ _ hsign'
          exact hne ((digits_iff.mp h).1.symm.trans hnone)
      · rename_i d ds hsome
        rw [findsWithin_ok_iff]
        constructor
        · rintro ⟨rfl, rfl⟩
          exact .some hletter hread (List.cons_ne_nil d ds) (digits_iff.mpr ⟨hsome, rfl⟩)
        · intro h
          cases h with
          | none h => exact (hletter.elim (h c rfl).1 (h c rfl).2).elim
          | some hl hsign' hne h =>
            obtain ⟨rfl, rfl⟩ := honly _ _ hsign'
            obtain ⟨rfl, rfl⟩ := digits_iff.mp h
            rw [hsome]
            exact ⟨rfl, rfl⟩
    · rename_i hletter
      rw [findsWithin_ok_iff]
      constructor
      · rintro ⟨rfl, rfl⟩
        refine .none fun d hd => ?_
        obtain rfl := Option.some.inj hd
        exact not_or.mp hletter
      · intro h
        cases h with
        | none h => exact ⟨rfl, rfl⟩
        | some hl hsign hne h => exact absurd hl hletter

/-- The reader finds the number that is written, and nothing else. -/
theorem finds_read_iff {negative : Bool} {n : Numeral} :
    Finds (read negative s) n rest ↔ n.negative = negative ∧ Written s n rest := by
  constructor
  · intro hfinds
    unfold read at hfinds
    split at hfinds
    · exact absurd hfinds (not_finds_error _)
    · rename_i whole hwhole
      split at hfinds
      · exact absurd hfinds (not_finds_error _)
      · rename_i fraction r' h hfraction
        split at hfinds
        · exact absurd hfinds (not_finds_error _)
        · rename_i exponent r'' h' hexponent
          obtain ⟨rfl, rfl⟩ := finds_ok_iff.mp hfinds
          exact ⟨rfl, whole.rest, r', finds_readWhole_iff.mp ⟨whole.shorter, hwhole⟩,
            findsWithin_readFraction_iff.mp ⟨h, hfraction⟩,
            findsWithin_readExponent_iff.mp ⟨h', hexponent⟩⟩
  · rintro ⟨rfl, r, r', hwhole, hfraction, hexponent⟩
    obtain ⟨_, hwhole⟩ := finds_readWhole_iff.mpr hwhole
    obtain ⟨_, hfraction⟩ := findsWithin_readFraction_iff.mpr hfraction
    obtain ⟨_, hexponent⟩ := findsWithin_readExponent_iff.mpr hexponent
    unfold read
    simp only [hwhole, hfraction, hexponent]
    exact ⟨_, rfl⟩

end Numeral

end EvalConsole.Json
