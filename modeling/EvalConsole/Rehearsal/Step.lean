/-
What happens to submissions answered from a script.

* `Rehearsal.settle` runs every task that is able to run until it waits or ends.
* `Rehearsal.trigger`, `submit`, `evaluate`, `release` and `abort` are the things that can
  be done from outside.

Design notes
------------
Running a task never makes another one able to run, so settling goes through the list of
runnable tasks once. For the same reason a submission that is waited for and has to wait
at a gate is never released: it is given up when the tasks have been run.
-/
import EvalConsole.Rehearsal.Basic

namespace EvalConsole.Rehearsal

/-! ### Calls -/

/-- Starts a call: it is noted, and it asks for the next script element. -/
def startCall (s : Rehearsal) (caller : Caller) (input : String) : Rehearsal :=
  { s with calls := s.calls ++ [⟨caller, input⟩], taken := s.taken + 1 }

/-- Arrives at the gate of a call, if it has one: whether the call goes on at once. A
release that was kept is used up. -/
def arrive (s : Rehearsal) (call : Nat) : Bool × Rehearsal :=
  if s.hasGate call then
    if call ∈ s.kept then (true, { s with kept := s.kept.filter (· != call) })
    else (false, s)
  else (true, s)

/-- Makes a call and arrives at its gate: whether it goes on at once. -/
def call (s : Rehearsal) (caller : Caller) (input : String) : Bool × Rehearsal :=
  (s.startCall caller input).arrive s.taken

/-- Keeps a release at a gate. -/
def keep (s : Rehearsal) (gate : Nat) : Rehearsal :=
  if gate ∈ s.kept then s else { s with kept := gate :: s.kept }

/-! ### Submissions -/

/-- Ends a submission with the outcome of its call. -/
def complete (s : Rehearsal) (caller : Caller) (number : Nat) : Rehearsal :=
  (s.setProgress caller (.completed number)).shows (.ended caller (s.outcomeOf number))

/-- Makes the call of a submission, and shows its outcome if it goes on at once: whether it
does. -/
def finish (s : Rehearsal) (caller : Caller) (input : String) : Bool × Rehearsal :=
  let arrived := s.call caller input
  if arrived.1 then (true, arrived.2.complete caller s.taken)
  else (false, arrived.2.setProgress caller (.waiting s.taken))

/-! ### Tasks -/

/-- Runs a task that is not to be aborted until it waits or ends. -/
def advance (s : Rehearsal) (task : Nat) : Progress → Rehearsal
  | .queued input => (s.finish (.task task) input).2
  | .released number => s.complete (.task task) number
  | .waiting _ => s
  | .completed _ => s
  | .aborted => s

/-- Ends a task without an outcome. A release that it has not used goes back to the
gate. -/
def discard (s : Rehearsal) (task : Nat) : Progress → Rehearsal
  | .released number => (s.setProgress (.task task) .aborted).keep number
  | .completed _ => s
  | _ => s.setProgress (.task task) .aborted

/-- Runs a task. -/
def runTask (s : Rehearsal) (task : Nat) : Rehearsal :=
  match s.tasks[task]? with
  | none => s
  | some t =>
    if t.abortRequested then s.discard task t.progress else s.advance task t.progress

/-- Runs every task that is able to run until it waits or ends. -/
def settle (s : Rehearsal) : Rehearsal :=
  s.runnable.foldl runTask { s with runnable := [] }

/-! ### From outside -/

/-- Makes a submission in the background: it is shown to be running, and a task for it is
added to those able to run. -/
def trigger (s : Rehearsal) (input : String) : Rehearsal :=
  let task := s.tasks.length
  { s.shows (.running (.task task)) with
    tasks := s.tasks ++ [⟨.queued input, false⟩]
    runnable := s.runnable ++ [task] }

/-- Makes a submission that is to be waited for: it is shown to be running. -/
def present (s : Rehearsal) (input : String) : Rehearsal :=
  { s.shows (.running (.submission s.submissions.length)) with
    submissions := s.submissions ++ [.queued input] }

/-- Makes a submission and waits for it: whether it ended. One that has to wait at a gate is
given up when the tasks have been run. -/
def submit (s : Rehearsal) (input : String) : Bool × Rehearsal :=
  let caller := Caller.submission s.submissions.length
  let finished := (s.present input).finish caller input
  if finished.1 then finished
  else (false, finished.2.settle.setProgress caller .aborted)

/-- Makes a call and waits for its outcome, which is not shown. -/
def evaluate (s : Rehearsal) (input : String) : Option Outcome × Rehearsal :=
  let arrived := s.call .direct input
  if arrived.1 then (some (arrived.2.outcomeOf s.taken), arrived.2)
  else (none, arrived.2.settle)

/-- The task that waits at a gate. -/
def waitingAt? (s : Rehearsal) (gate : Nat) : Option Nat :=
  s.tasks.findIdx? fun t => t.progress == .waiting gate

/-- Releases a gate, if the script has it. -/
def release (s : Rehearsal) (gate : Nat) : Bool × Rehearsal :=
  if s.hasGate gate then
    match s.waitingAt? gate with
    | some task =>
      let s' := s.setProgress (.task task) (.released gate)
      (true, if task ∈ s.runnable then s' else { s' with runnable := s.runnable ++ [task] })
    | none => (true, s.keep gate)
  else (false, s)

/-- Notes that a task ends when it is run next. -/
def requestAbort (s : Rehearsal) (task : Nat) : Rehearsal :=
  { s with tasks := s.tasks.modify task fun t => { t with abortRequested := true } }

/-- Asks for the end of a task, if there is one with this number. A task that waits
becomes able to run. -/
def abort (s : Rehearsal) (task : Nat) : Bool × Rehearsal :=
  match s.tasks[task]? with
  | none => (false, s)
  | some t =>
    if t.progress.isEnded then (true, s)
    else
      let s' := s.requestAbort task
      (true, if task ∈ s.runnable then s' else { s' with runnable := s.runnable ++ [task] })

/-! ### Runs -/

/-- What is done from outside. -/
inductive Action where
  | trigger (input : String)
  | submit (input : String)
  | evaluate (input : String)
  | release (gate : Nat)
  | abort (task : Nat)
  /-- Nothing. -/
  | rest
  deriving DecidableEq, Repr

/-- How something done from outside went. -/
inductive Report where
  /-- There is nothing to report. -/
  | none
  /-- Whether the submission ended. -/
  | submitted (ended : Bool)
  /-- The outcome of the call, if it ended. -/
  | evaluated (outcome : Option Outcome)
  /-- The script has no such gate. -/
  | noGate
  /-- There is no such task. -/
  | noTask

/-- Does something from outside. -/
def act (s : Rehearsal) : Action → Report × Rehearsal
  | .trigger input => (.none, s.trigger input)
  | .submit input =>
    let (ended, s) := s.submit input
    (.submitted ended, s)
  | .evaluate input =>
    let (outcome, s) := s.evaluate input
    (.evaluated outcome, s)
  | .release gate =>
    let (found, s) := s.release gate
    (if found then .none else .noGate, s)
  | .abort task =>
    let (found, s) := s.abort task
    (if found then .none else .noTask, s)
  | .rest => (.none, s)

/-- A step: something is done from outside, and then the tasks are run or not. -/
structure Step where
  action : Action
  settles : Bool
  deriving DecidableEq, Repr

/-- Makes a step. -/
def step (s : Rehearsal) (step : Step) : Report × Rehearsal :=
  let (report, s) := s.act step.action
  (report, if step.settles then s.settle else s)

/-- The state after steps. -/
def run (s : Rehearsal) (steps : List Step) : Rehearsal :=
  steps.foldl (fun s step => (s.step step).2) s

end EvalConsole.Rehearsal
