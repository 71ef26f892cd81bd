/-
Fields between separators.

* `Text.splitOn_join`: fields without separators are found again between them.
* `Text.mem_of_mem_splitOn`: the characters of fields are those of the text, without separators.
-/
import Mathlib.Tactic.Common
import EvalConsole.Text.Split

namespace EvalConsole.Text

variable {separator : Char → Bool} {field s : List Char} {c : Char}

/-- A text without separators is a single field. -/
theorem splitOn_of_forall (h : ∀ c ∈ field, separator c = false) :
    splitOn separator field = [field] := by
  induction field with
  | nil => rfl
  | cons c field ih =>
    obtain ⟨first, others⟩ := List.forall_mem_cons.mp h
    rw [splitOn, first, ih others]
    rfl

/-- A text starts with a field that ends at the first separator. -/
theorem splitOn_append_cons (h : ∀ c ∈ field, separator c = false) (ends : separator c = true)
    (s : List Char) : splitOn separator (field ++ c :: s) = field :: splitOn separator s := by
  induction field with
  | nil => rw [List.nil_append, splitOn, if_pos ends]
  | cons d field ih =>
    obtain ⟨first, others⟩ := List.forall_mem_cons.mp h
    rw [List.cons_append, splitOn, first, ih others]
    rfl

/-- Fields without separators are found again between them. -/
theorem splitOn_join {separator : Char} {fields : List (List Char)} (some : fields ≠ [])
    (h : ∀ field ∈ fields, ∀ c ∈ field, c ≠ separator) :
    splitOn (· == separator) (join separator fields) = fields := by
  induction fields with
  | nil => exact absurd rfl some
  | cons field fields ih =>
    obtain ⟨first, others⟩ := List.forall_mem_cons.mp h
    have plain : ∀ c ∈ field, (c == separator) = false := fun c there =>
      beq_false_of_ne (first c there)
    cases fields with
    | nil => exact splitOn_of_forall plain
    | cons next fields =>
      rw [join, splitOn_append_cons plain (beq_self_eq_true separator),
        ih (List.cons_ne_nil _ _) others]

/-- The characters of fields are those of the text, without the separators. -/
theorem mem_of_mem_splitOn (found : field ∈ splitOn separator s) (there : c ∈ field) :
    c ∈ s ∧ separator c = false := by
  induction s generalizing field with
  | nil =>
    rw [splitOn, List.mem_singleton] at found
    rw [found] at there
    cases there
  | cons d s ih =>
    rw [splitOn] at found
    split at found
    · obtain rfl | found := List.mem_cons.mp found
      · cases there
      · exact (ih found there).imp_left (List.mem_cons_of_mem d)
    · rename_i plain
      split at found
      · rename_i none
        exact absurd none (splitOn_ne_nil _ _)
      · rename_i first others split
        rw [split] at ih
        obtain rfl | found := List.mem_cons.mp found
        · obtain rfl | there := List.mem_cons.mp there
          · exact ⟨List.mem_cons_self, by simpa using plain⟩
          · exact (ih List.mem_cons_self there).imp_left (List.mem_cons_of_mem d)
        · exact (ih (List.mem_cons_of_mem _ found) there).imp_left (List.mem_cons_of_mem d)

/-- The characters of a text of fields are those of the fields, and separators. -/
theorem mem_join {separator : Char} {fields : List (List Char)} (h : c ∈ join separator fields) :
    c = separator ∨ ∃ field ∈ fields, c ∈ field := by
  induction fields with
  | nil => cases h
  | cons field fields ih =>
    cases fields with
    | nil => exact .inr ⟨field, List.mem_cons_self, h⟩
    | cons next fields =>
      obtain here | rfl | later := (List.mem_append.trans (or_congr_right List.mem_cons)).mp h
      · exact .inr ⟨field, List.mem_cons_self, here⟩
      · exact .inl rfl
      · refine (ih later).imp_right ?_
        rintro ⟨other, found, there⟩
        exact ⟨other, List.mem_cons_of_mem _ found, there⟩

end EvalConsole.Text
