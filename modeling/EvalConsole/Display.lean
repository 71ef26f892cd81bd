/-
Where texts are shown.

* `TextArea` shows the latest text.
* `Terminal` keeps every text, each on lines of its own.
-/

namespace EvalConsole

/-- Shown while a submission has not ended. -/
def runningText : String :=
  "Running..."

/-- A display of one text. -/
structure TextArea where
  text : String
  deriving DecidableEq, Repr

namespace TextArea

/-- A display that shows nothing. -/
def empty : TextArea :=
  ⟨""⟩

/-- Shows a text instead of the one before. -/
def setText (_area : TextArea) (text : String) : TextArea :=
  ⟨text⟩

/-- The texts shown at the start and after each of several texts has been set. -/
def history (area : TextArea) (texts : List String) : List String :=
  area.text :: match texts with
    | [] => []
    | text :: rest => history (area.setText text) rest

end TextArea

/-- A display of lines. -/
structure Terminal where
  written : String
  deriving DecidableEq, Repr

namespace Terminal

/-- A display without lines. -/
def empty : Terminal :=
  ⟨""⟩

/-- Adds a text and a line end. -/
def setText (terminal : Terminal) (text : String) : Terminal :=
  ⟨terminal.written ++ text ++ "\n"⟩

end Terminal

end EvalConsole
