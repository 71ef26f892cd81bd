/-
What the input of a session says.

What an input says does not depend on when answers arrive: it is the list of the expressions
in it, each with the server that was in effect when it was read.

* `Transcript.after` is what an input says, read without any tasks.
* `Console.Follows`: the tasks of a session are those that its input asks for, and
  `Console.Follows.run` says that this is kept by a run.
-/
import EvalConsole.Proofs.Console.Move

namespace EvalConsole

-- What a line or a server comes to is never looked into here.
attribute [local irreducible] dispatch endpoint

/-- Whether an event is an answer. -/
def Event.isAnswer : Event → Bool
  | .answer _ _ => true
  | _ => false

/-- What has been read of an input. -/
structure Transcript where
  session : Session
  files : Files
  /-- The expressions, each with the server that was in effect when it was read. -/
  asked : List (String × String)
  /-- Whether nothing more is read. -/
  closed : Bool

namespace Transcript

/-- Before anything has been read. -/
def opened (session : Session) (files : Files) : Transcript :=
  ⟨session, files, [], false⟩

/-- Another server takes effect if it is the address of something. -/
def switch (t : Transcript) (server : String) : Transcript :=
  match endpoint server with
  | .ok _ => { t with session := { t.session with server } }
  | .error _ => t

/-- What a line asks for. -/
def obey (t : Transcript) (line : String) : Request → Transcript
  | .handled => t
  | .changeServer server => t.switch server
  | .quit => { t with closed := true }
  | .expression => { t with asked := t.asked ++ [(line, t.session.server)] }

/-- Reads a line. -/
def readLine (t : Transcript) (line : String) : Transcript :=
  let answer := dispatch line t.session t.files
  { t with files := answer.2 }.obey line answer.1.request

/-- Reads what has happened. Answers are not part of an input. -/
def step (t : Transcript) (event : Event) : Transcript :=
  if t.closed then t
  else if event.closes then { t with closed := true }
  else
    match event with
    | .line text => t.readLine text
    | _ => t

theorem step_closed (t : Transcript) (h : t.closed = true) {event : Event} : t.step event = t := by
  unfold step
  rw [if_pos h]

theorem step_answer (t : Transcript) (number : Nat) (network : Network) :
    t.step (.answer number network) = t := by
  unfold step
  split <;> rfl

theorem step_line (t : Transcript) (h : t.closed = false) {line : String} :
    t.step (.line line) = t.readLine line := by
  unfold step
  rw [if_neg (by simp [h])]
  rfl

theorem step_close (t : Transcript) (h : t.closed = false) {event : Event} (hcloses : event.closes) :
    t.step event = { t with closed := true } := by
  unfold step
  rw [if_neg (by simp [h]), if_pos hcloses]

/-- What has been read after events. -/
def after (t : Transcript) (events : List Event) : Transcript :=
  events.foldl step t

/-- What an input says does not depend on the answers. -/
theorem after_filter (t : Transcript) (events : List Event) :
    t.after (events.filter fun event => !event.isAnswer) = t.after events := by
  induction events generalizing t with
  | nil => rfl
  | cons event rest ih =>
    cases event with
    | answer number network =>
      rw [after, after, List.foldl_cons, step_answer]
      exact ih t
    | line _ | badLine _ | endOfInput | interrupt => exact ih _

/-- A line that is an expression, as the whole input. -/
theorem after_line (session : Session) (files : Files) {line : String}
    (h : (dispatch line session files).1.request = .expression) :
    let t := (opened session files).after [.line line, .endOfInput]
    t.asked = [(line, session.server)] ∧ t.closed = true := by
  have read : (opened session files).after [.line line, .endOfInput] =
      ((opened session files).readLine line).step .endOfInput := rfl
  rw [read, readLine]
  dsimp only [opened]
  rw [h]
  exact ⟨rfl, rfl⟩

end Transcript

namespace Console

variable {c d : Console} {event : Event} {timeout : Option Nat} {t : Transcript}

/-! ### The tasks are those that the input asks for -/

/-- An expression and where it went. -/
def Task.order (task : Task) : String × Except EndpointError Evaluator :=
  (task.errand.expression, .ok task.errand.evaluator)

/-- An expression and where it has to go: to the evaluator for its server. -/
def orderFor (timeout : Option Nat) (asked : String × String) :
    String × Except EndpointError Evaluator :=
  (asked.1, Evaluator.of asked.2 timeout)

/-- A session has made of an input what was read of it. -/
structure Follows (timeout : Option Nat) (t : Transcript) (c : Console) : Prop where
  reading : c.phase = .reading ↔ t.closed = false
  session : t.session = c.session
  files : t.files = c.files
  serves : Serves timeout c.target
  asked : c.tasks.map Task.order = t.asked.map (orderFor timeout)

theorem Follows.drain (h : Follows timeout t c) :
    Follows timeout { t with closed := true } c.drain where
  reading := ⟨fun hr => absurd hr c.phase_drain_ne, nofun⟩
  session := h.session.trans (congrArg Prod.fst c.target_drain).symm
  files := h.files.trans c.frame_drain.1.symm
  serves := by
    rw [target_drain]
    exact h.serves
  asked := by
    rw [c.frame_drain.2]
    exact h.asked

theorem Follows.finish (h : Follows timeout t c) : Follows timeout t c.finish where
  reading := c.phase_finish_iff.trans h.reading
  session := h.session.trans (congrArg Prod.fst c.target_finish).symm
  files := h.files.trans c.frame_finish.1.symm
  serves := by
    rw [target_finish]
    exact h.serves
  asked := by
    rw [c.frame_finish.2]
    exact h.asked

theorem Follows.perform (h : Follows timeout t c) (written : List Effect) :
    Follows timeout t (c.perform written) :=
  ⟨h.reading, h.session, h.files, h.serves, h.asked⟩

theorem Follows.changeServer (h : Follows timeout t c) (server : String) :
    Follows timeout (t.switch server) (c.changeServer server) := by
  have htime : c.evaluator.timeout = timeout := (Evaluator.of_eq_ok_iff.mp h.serves).2
  rw [Transcript.switch, Console.changeServer, Evaluator.of]
  cases hend : endpoint server with
  | ok url =>
    refine ⟨h.reading, ?_, h.files, ?_, h.asked⟩
    · exact congrArg (fun session : Session => { session with server }) h.session
    · exact Evaluator.of_eq_ok_iff.mpr ⟨hend, htime⟩
  | error cause => exact h.perform _

theorem Follows.trigger (h : Follows timeout t c) (line : String) :
    Follows timeout { t with asked := t.asked ++ [(line, t.session.server)] } (c.trigger line) where
  reading := h.reading
  session := h.session
  files := h.files
  serves := h.serves
  asked := by
    have hof : Evaluator.of t.session.server timeout = .ok c.evaluator := by
      rw [h.session]
      exact h.serves
    show (c.tasks ++ [_]).map Task.order = _
    rw [List.map_append, List.map_append, h.asked, List.map_singleton, List.map_singleton,
      orderFor, hof]
    rfl

theorem Follows.obey (h : Follows timeout t c) (line : String) (request : Request) :
    Follows timeout (t.obey line request) (c.obey line request) := by
  cases request with
  | expression => exact (h.trigger line).perform _
  | handled => exact h.perform _
  | changeServer server =>
    rw [Transcript.obey, Console.obey, Console.ask]
    exact (h.changeServer server).perform _
  | quit => exact h.drain

theorem Follows.complete (h : Follows timeout t c) {number : Nat} {errand : Errand}
    (htask : c.tasks[number]? = some ⟨errand, none⟩) (notices : List Notice) (outcome : Outcome) :
    Follows timeout t (c.complete number errand notices outcome) where
  reading := h.reading
  session := h.session
  files := h.files
  serves := h.serves
  asked := (map_set_of_errand (fun _ => rfl) htask (some outcome)).trans h.asked

theorem Follows.readLine (h : Follows timeout t c) (line : String) :
    Follows timeout (t.readLine line) (c.readLine line) := by
  rw [Transcript.readLine, Console.readLine, h.session, h.files]
  refine Follows.obey ?_ line _
  exact ⟨h.reading, rfl, rfl, h.serves, h.asked⟩

theorem Follows.move (h : Follows timeout t c) (hmove : Move c event d) :
    Follows timeout (t.step event) d := by
  cases hmove with
  | nothing hevent =>
    -- nothing is done because the input is closed, or because an answer is no input
    have hsame : t.step event = t := by
      obtain hreading | ⟨number, network, rfl⟩ := hevent
      · exact t.step_closed (by simpa using mt h.reading.mpr hreading)
      · exact t.step_answer number network
    rw [hsame]
    exact h
  | line hreading text =>
    rw [t.step_line (h.reading.mp hreading)]
    exact h.readLine text
  | close hreading hcloses _ =>
    rw [t.step_close (h.reading.mp hreading) hcloses]
    exact (h.perform _).drain
  | complete _ htask network _ notices =>
    rw [t.step_answer]
    exact (h.complete htask notices _).finish
  | abandon hdraining =>
    -- tasks are given up after the last line only
    have hne : c.phase ≠ .reading := by
      rw [hdraining]
      nofun
    have hclosed : t.closed = true := by simpa using mt h.reading.mpr hne
    rw [t.step_closed hclosed]
    exact ⟨⟨nofun, fun hopen => absurd (h.reading.mpr hopen) hne⟩, h.session, h.files, h.serves,
      h.asked⟩

theorem Follows.run (h : Follows timeout t c) (events : List Event) :
    Follows timeout (t.after events) (c.run events) := by
  induction events generalizing t c with
  | nil => exact h
  | cons event rest ih => exact ih (h.move (step_move c event))

end Console

end EvalConsole
