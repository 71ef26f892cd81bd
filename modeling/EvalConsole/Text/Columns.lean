/-
Texts side by side.

* `Text.columns` puts explanations behind terms, all starting in one column.
-/

namespace EvalConsole.Text

/-- A text filled up with spaces. -/
def padded (width : Nat) (s : String) : String :=
  s ++ String.ofList (List.replicate (width - s.length) ' ')

/-- Lines of a term and its explanation, indented by two spaces; the explanations start in
one column. -/
def columns (rows : List (String × String)) : List String :=
  let width := (rows.map fun row => row.1.length).foldl max 0
  rows.map fun (term, explanation) => "  " ++ padded width term ++ "  " ++ explanation

end EvalConsole.Text
