/-
Submissions answered from a script.

A script is a list of outcomes; each call takes the next one, and a call beyond the end of
the script fails. An element may be gated: the call that takes it waits at its gate until the
gate is released. A gate keeps one release for a call that comes later.

A submission made in the background is a task. Tasks are run one after the other, in the
order in which they became able to run; a task that was aborted ends when it is run next.

* `Rehearsal` is a state of such a run.
* `Rehearsal.texts` are the texts shown so far, `Rehearsal.seen` the inputs of the calls,
  `Rehearsal.text` the text shown now.

Design notes
------------
A call is known by its number, which is that of the script element that it asks for. The
number of the next call is counted on its own, beside the list of the calls that have started;
that it is the length of the list holds after every run and is no part of the definition. The
texts shown are kept with the submission that they belong to, and the display is kept beside
them.
-/
import EvalConsole.Display
import EvalConsole.Reply

namespace EvalConsole

/-- An outcome of a script. -/
structure ScriptElement where
  outcome : Outcome
  /-- Whether the call that takes the element has to wait for a release. -/
  gated : Bool

namespace Rehearsal

/-- Who makes a call. -/
inductive Caller where
  /-- The background task with this number. -/
  | task (number : Nat)
  /-- A submission that is waited for, by its number among those. -/
  | submission (number : Nat)
  /-- Nobody shows the outcome. -/
  | direct
  deriving DecidableEq, Repr

/-- A call that has started. -/
structure Call where
  caller : Caller
  input : String
  deriving DecidableEq, Repr

/-- A text that was shown: that of a running submission, or of its outcome. -/
inductive Shown where
  | running (caller : Caller)
  | ended (caller : Caller) (outcome : Outcome)

/-- The text itself. -/
def Shown.text : Shown → String
  | running _ => runningText
  | ended _ outcome => outcome.render

/-- How far a submission is. -/
inductive Progress where
  /-- It has not made its call yet. -/
  | queued (input : String)
  /-- Its call waits at a gate. -/
  | waiting (call : Nat)
  /-- The gate of its call has been released. -/
  | released (call : Nat)
  /-- Its outcome has been shown. -/
  | completed (call : Nat)
  /-- It ended without an outcome. -/
  | aborted
  deriving DecidableEq, Repr

namespace Progress

/-- Whether a submission has ended. -/
def isEnded : Progress → Bool
  | completed _ => true
  | aborted => true
  | _ => false

end Progress

/-- A background task. -/
structure Task where
  progress : Progress
  /-- Whether it ends when it is run next. -/
  abortRequested : Bool
  deriving DecidableEq, Repr

end Rehearsal

open Rehearsal

/-- A state of submissions answered from a script. -/
structure Rehearsal where
  script : List ScriptElement
  /-- How many script elements have been asked for; there may be fewer. -/
  taken : Nat
  /-- The calls that have started. -/
  calls : List Call
  /-- The gates that keep a release. -/
  kept : List Nat
  tasks : List Task
  /-- The tasks that are able to run, in the order in which they became so. -/
  runnable : List Nat
  /-- How far the submissions are that are waited for. -/
  submissions : List Progress
  log : List Shown
  /-- The display that the texts are shown on. -/
  area : TextArea

namespace Rehearsal

/-- The state before anything has been submitted. -/
def start (script : List ScriptElement) : Rehearsal :=
  ⟨script, 0, [], [], [], [], [], [], .empty⟩

/-- The inputs of the calls that have started. -/
def seen (s : Rehearsal) : List String :=
  s.calls.map Call.input

/-- The texts shown so far. -/
def texts (s : Rehearsal) : List String :=
  s.log.map Shown.text

/-- The text shown now. -/
def text (s : Rehearsal) : String :=
  s.area.text

/-- For each task, whether it has ended. -/
def finished (s : Rehearsal) : List Bool :=
  s.tasks.map fun t => t.progress.isEnded

/-- The outcome of a call beyond the end of the script; calls are counted from one. -/
def exhausted (count : Nat) : Outcome :=
  .error (.transport s!"MockEvaluator: no more steps (called {count} times)")

/-- The outcome that the script holds for a call. -/
def outcomeOf (s : Rehearsal) (call : Nat) : Outcome :=
  match s.script[call]? with
  | some element => element.outcome
  | none => exhausted (call + 1)

/-- Whether a script element has a gate. -/
def hasGate (s : Rehearsal) (call : Nat) : Bool :=
  match s.script[call]? with
  | some element => element.gated
  | none => false

/-- Shows a text. -/
def shows (s : Rehearsal) (shown : Shown) : Rehearsal :=
  { s with log := s.log ++ [shown], area := s.area.setText shown.text }

/-- How far the submission of a caller is, if it has made one. -/
def progressOf (s : Rehearsal) : Caller → Option Progress
  | .task number => s.tasks[number]?.map Task.progress
  | .submission number => s.submissions[number]?
  | .direct => none

/-- Sets how far the submission of a caller is. -/
def setProgress (s : Rehearsal) (caller : Caller) (progress : Progress) : Rehearsal :=
  match caller with
  | .task number => { s with tasks := s.tasks.modify number fun t => { t with progress } }
  | .submission number => { s with submissions := s.submissions.set number progress }
  | .direct => s

end Rehearsal

end EvalConsole
