/-
What the program notes about its own work.

* `Notice` is a note, with its level and the part of the program that makes it.
* `Notice.text` is its text.
-/
import EvalConsole.About

namespace EvalConsole

/-- How much a note matters, the most important first. -/
inductive Level where
  | error
  | warn
  | info
  | debug
  | trace
  deriving DecidableEq, Repr

namespace Level

/-- The number of a level, the most important one first. -/
def rank : Level → Nat
  | error => 1
  | warn => 2
  | info => 3
  | debug => 4
  | trace => 5

/-- The word for a level, five letters wide. -/
def label : Level → String
  | error => "ERROR"
  | warn => " WARN"
  | info => " INFO"
  | debug => "DEBUG"
  | trace => "TRACE"

end Level

/-- What is noted. -/
inductive Notice where
  /-- An expression of so many bytes is sent. -/
  | submitting (endpoint : String) (length : Nat)
  /-- There is no response. -/
  | requestFailed (message : String)
  | responseReceived (status : UInt16)
  | submissionFinished (ok : Bool)
  deriving DecidableEq, Repr

namespace Notice

/-- The level of a note. -/
def level : Notice → Level
  | requestFailed _ => .warn
  | _ => .debug

/-- The part of the program that makes a note. -/
def target : Notice → String
  | submissionFinished _ => About.programName ++ "::widget"
  | _ => About.programName ++ "::evaluator::http"

/-- The text of a note. -/
def text : Notice → String
  | submitting endpoint length => s!"submitting expression endpoint={endpoint} len={length}"
  | requestFailed message => "request failed error=" ++ message
  | responseReceived status => s!"response received status={status.toNat}"
  | submissionFinished ok => "submission finished ok=" ++ (if ok then "true" else "false")

end Notice

end EvalConsole
