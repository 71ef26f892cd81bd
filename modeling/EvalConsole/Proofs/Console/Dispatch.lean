/-
Lines that are carried out.

* `dispatch_of_command`: a line whose first word stands for a command.
* `dispatch_of_ofWord?_eq_none`: a line whose first word stands for none changes nothing.
-/
import Mathlib.Tactic.Common
import EvalConsole.Command

namespace EvalConsole

variable {line : String}

theorem dispatch_of_command {command : Command}
    (h : Command.ofWord? (splitLine line).1 = some command) (session : Session) (files : Files) :
    dispatch line session files = command.run (splitLine line).2 session files := by
  unfold dispatch
  generalize splitLine line = words at h ⊢
  obtain ⟨word, argument⟩ := words
  dsimp only at h ⊢
  rw [h]

/-- A line whose first word stands for no command is an expression, or it is hinted at. -/
theorem dispatch_of_ofWord?_eq_none (h : Command.ofWord? (splitLine line).1 = none)
    (session : Session) (files : Files) :
    (dispatch line session files).2 = files ∧
      ((dispatch line session files).1.request = .handled ∨
        (dispatch line session files).1.request = .expression) := by
  unfold dispatch
  generalize splitLine line = words at h ⊢
  obtain ⟨word, argument⟩ := words
  dsimp only at h ⊢
  rw [h]
  dsimp only
  split
  · exact ⟨rfl, .inl rfl⟩
  · exact ⟨rfl, .inr rfl⟩

end EvalConsole
