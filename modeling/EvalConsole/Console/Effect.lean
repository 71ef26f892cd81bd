/-
What the program does to its surroundings.

* `Effect` is a single deed, `Effect.stdout` and `Effect.stderr` the texts that deeds leave
  on the two outputs.
* `Effect.sent` are the evaluations that deeds begin, `Effect.shown` the texts that they
  show on the display.
-/
import EvalConsole.Evaluator
import EvalConsole.NoticeFilter

namespace EvalConsole

/-- An expression on its way: where it was sent, and what it is. -/
structure Errand where
  evaluator : Evaluator
  expression : String
  deriving DecidableEq

/-- A deed of the program. -/
inductive Effect where
  /-- A text is written to the standard output. -/
  | print (text : String)
  /-- A text is shown on the display, which is a line of the standard output. -/
  | display (text : String)
  /-- A text is written to the standard error output. -/
  | complain (text : String)
  /-- Something is noted; a filter decides whether it is written down. -/
  | note (notice : Notice)
  /-- The evaluation of an expression begins. -/
  | send (errand : Errand)
  deriving DecidableEq

namespace Effect

/-- What a deed leaves on the standard output. -/
def printed : Effect → String
  | print text => text
  | display text => (Terminal.empty.setText text).written
  | _ => ""

/-- What a deed leaves on the standard error output. -/
def complained (filter : NoticeFilter) (time : String) : Effect → String
  | complain text => text
  | note notice => if filter.allows notice then notice.line time else ""
  | _ => ""

/-- The standard output of deeds. -/
def stdout (effects : List Effect) : String :=
  String.join (effects.map printed)

/-- The standard error output of deeds. -/
def stderr (filter : NoticeFilter) (time : String) (effects : List Effect) : String :=
  String.join (effects.map (complained filter time))

/-- The evaluations that deeds begin. -/
def sent (effects : List Effect) : List Errand :=
  effects.filterMap fun
    | send errand => some errand
    | _ => none

/-- The texts that deeds show on the display. -/
def shown (effects : List Effect) : List String :=
  effects.filterMap fun
    | display text => some text
    | _ => none

@[simp] theorem sent_append (effects others : List Effect) :
    sent (effects ++ others) = sent effects ++ sent others :=
  List.filterMap_append

@[simp] theorem shown_append (effects others : List Effect) :
    shown (effects ++ others) = shown effects ++ shown others :=
  List.filterMap_append

@[simp] theorem stdout_append (effects others : List Effect) :
    stdout (effects ++ others) = stdout effects ++ stdout others := by
  rw [stdout, List.map_append, String.join_append]
  rfl

end Effect

end EvalConsole
