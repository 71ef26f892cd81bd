/-
Sessions at the console.

A session reads lines and carries them out. An expression becomes a task in the background,
and the next line is read while the task waits for its answer; the outcome is shown when the
answer arrives. At the end of the session the tasks that have not ended are waited for.

* `Event` is something that happens to a session, `Console.step` what it does to it.
* `Console.run` is what a list of events does.

Design notes
------------
A task is known by its number, which is its place in the list of all tasks. A session keeps
hold of the numbers of the tasks that it will wait for: whenever it makes another task, it
lets go of those that have ended. Answers may arrive in any order; an answer is given by the
number of the task and by the network that answers.
-/
import EvalConsole.Command
import EvalConsole.Console.Effect
import EvalConsole.Text.Utf8

namespace EvalConsole

/-- Something that happens to a session. -/
inductive Event where
  /-- A line is read. -/
  | line (text : String)
  /-- A line is read that is no text. -/
  | badLine (cause : Utf8.DecodeError)
  | endOfInput
  | interrupt
  /-- The network answers the expression of the task with a number. -/
  | answer (number : Nat) (network : Network)

/-- What a session is doing. -/
inductive Phase where
  /-- It waits for a line. -/
  | reading
  /-- It waits for answers, and nothing more is read. -/
  | draining
  /-- There is a single expression instead of a session, and its answer is waited for. -/
  | single
  | ended
  deriving DecidableEq, Repr

/-- A task in the background: an expression on its way, and its outcome once that is shown. -/
structure Console.Task where
  errand : Errand
  outcome : Option Outcome

/-- A session at the console. -/
structure Console where
  phase : Phase
  session : Session
  evaluator : Evaluator
  files : Files
  /-- The tasks in the order in which they were made. -/
  tasks : List Console.Task
  /-- The numbers of the tasks that the session keeps hold of. -/
  handles : List Nat
  /-- What the session has done so far. -/
  effects : List Effect

namespace Console

/-- What is written when a line is waited for. -/
def prompt : String :=
  "evalpad> "

/-- Does something. -/
def perform (c : Console) (effects : List Effect) : Console :=
  { c with effects := c.effects ++ effects }

/-- Waits for a line. -/
def ask (c : Console) : Console :=
  c.perform [.print prompt]

/-- Whether a task has not ended. -/
def isPending (c : Console) (number : Nat) : Bool :=
  match c.tasks[number]? with
  | some task => task.outcome.isNone
  | none => false

/-- Whether there is something to wait for: a line, or the end of a task. -/
def isWaiting (c : Console) : Bool :=
  match c.phase with
  | .reading => true
  | .draining => c.handles.any c.isPending
  | .single => c.isPending 0
  | .ended => false

/-- Sends an expression off. -/
def submit (c : Console) (expression : String) : Console :=
  let errand : Errand := ⟨c.evaluator, expression⟩
  let task : Task := ⟨errand, none⟩
  { c with tasks := c.tasks ++ [task] }.perform
    [.display runningText, .send errand, .note (c.evaluator.announcement expression)]

/-- Sends an expression off and keeps hold of its task, but no more of those that have
ended. -/
def trigger (c : Console) (expression : String) : Console :=
  { c with handles := c.handles.filter c.isPending ++ [c.tasks.length] }.submit expression

/-- Goes on with another server, if it is one that expressions can be sent to. -/
def changeServer (c : Console) (server : String) : Console :=
  match Evaluator.of server c.evaluator.timeout with
  | .ok evaluator => { c with evaluator, session := { c.session with server } }
  | .error cause =>
    c.perform [.complain ("  " ++ cross ++ " " ++ String.intercalate ": " cause.chain ++ "\n")]

/-- Reads no more: waits for the tasks that the session keeps hold of. -/
def drain (c : Console) : Console :=
  let pending := c.handles.filter c.isPending
  if pending.isEmpty then { c with phase := .ended }
  else
    { c with phase := .draining, handles := pending }.perform
      [.complain s!"waiting for {pending.length} pending submission(s)...\n"]

/-- Does what a line asks for. -/
def obey (c : Console) (line : String) : Request → Console
  | .handled => c.ask
  | .changeServer server => (c.changeServer server).ask
  | .quit => c.drain
  | .expression => (c.trigger line).ask

/-- Takes over what a line has led to: the texts are written, and the files are as they are
afterwards. -/
def accept (c : Console) (answer : Reaction × Files) : Console :=
  { c with files := answer.2 }.perform [.print answer.1.stdout, .complain answer.1.stderr]

/-- Carries a line out. -/
def readLine (c : Console) (line : String) : Console :=
  let answer := dispatch line c.session c.files
  (c.accept answer).obey line answer.1.request

/-- Ends when there is nothing to wait for. -/
def finish (c : Console) : Console :=
  if c.isWaiting then c else { c with phase := .ended }

/-- Ends a task with an outcome: what was noted about its answer, and the outcome shown. -/
def complete (c : Console) (number : Nat) (errand : Errand) (notices : List Notice)
    (outcome : Outcome) : Console :=
  let task : Task := ⟨errand, some outcome⟩
  let notices := notices ++ [.submissionFinished (Evaluator.isReply outcome)]
  { c with tasks := c.tasks.set number task }.perform
    (notices.map Effect.note ++ [Effect.display outcome.render])

/-- Ends a task when its answer has arrived. A task that has ended takes no other answer, and
an answer that never comes changes nothing. -/
def receive (c : Console) (number : Nat) (network : Network) : Console :=
  match c.tasks[number]? with
  | some ⟨errand, none⟩ =>
    let evaluation := errand.evaluator.evaluate network errand.expression
    match evaluation.outcome with
    | some outcome => (c.complete number errand evaluation.notices outcome).finish
    | none => c
  | _ => c

/-- Gives the tasks up. -/
def abandon (c : Console) : Console :=
  { c with handles := [], phase := .ended }.perform [.print "\ninterrupted\n"]

/-- What an event does to a session. Interrupts are caught in sessions only. -/
def step (c : Console) (event : Event) : Console :=
  match c.phase, event with
  | .ended, _ => c
  | _, .answer number network => c.receive number network
  | .reading, .line text => c.readLine text
  | .reading, .badLine cause =>
    (c.perform [.complain ("input error: " ++ cause.message ++ "\n")]).drain
  | .reading, .endOfInput => (c.perform [.print "\n"]).drain
  | .reading, .interrupt => (c.perform [.print "\n"]).drain
  | .draining, .interrupt => c.abandon
  | _, _ => c

/-- What events do to a session. -/
def run (c : Console) (events : List Event) : Console :=
  events.foldl step c

/-- A network answers every task that has not ended, in the order in which they were made. -/
def answerAll (c : Console) (network : Network) : Console :=
  c.run (((List.range c.tasks.length).filter c.isPending).map (.answer · network))

end Console

end EvalConsole
