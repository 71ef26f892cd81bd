/-
Cutting a text into fields.

* `Text.splitOn` cuts at every separator; a text without one is a single field.
* `Text.join` puts a separator between fields; it undoes the cutting.
-/

namespace EvalConsole.Text

/-- The fields of a text between separators. -/
def splitOn (separator : Char → Bool) : List Char → List (List Char)
  | [] => [[]]
  | c :: rest =>
    if separator c then [] :: splitOn separator rest
    else
      match splitOn separator rest with
      | [] => [[c]]
      | field :: fields => (c :: field) :: fields

/-- Fields with a separator between them. -/
def join (separator : Char) : List (List Char) → List Char
  | [] => []
  | [field] => field
  | field :: next :: fields => field ++ separator :: join separator (next :: fields)

theorem splitOn_ne_nil (separator : Char → Bool) (s : List Char) :
    splitOn separator s ≠ [] := by
  induction s with
  | nil => simp [splitOn]
  | cons c rest _ =>
    rw [splitOn]
    split
    · simp
    · split <;> simp

theorem join_splitOn (separator : Char) (s : List Char) :
    join separator (splitOn (· == separator) s) = s := by
  induction s with
  | nil => rfl
  | cons c rest ih =>
    rw [splitOn]
    cases h : splitOn (· == separator) rest with
    | nil => exact absurd h (splitOn_ne_nil _ _)
    | cons field fields =>
      rw [h] at ih
      by_cases hc : c = separator
      · subst hc
        simp [join, ih]
      · have hne : (c == separator) = false := by simp [hc]
        cases fields with
        | nil =>
          simp only [join] at ih
          simp [hne, join, ih]
        | cons next fields =>
          simp only [join] at ih
          simp [hne, join, ih]

end EvalConsole.Text
