/-
A session and its evaluator are in step.

A session names a server, and its expressions go to the evaluator that was made for that
server. The two are kept apart, and a change of the server may be reported that no evaluator
can be made for: the saved server need not be the address of anything.

* `Console.target_step` says that a step changes both, or neither.
* `Console.run_serves` is the invariant: the evaluator is the one for the server.
* `Program.session_in_step` draws the conclusions for the lines of a session.
-/
import EvalConsole.Proofs.Console.Dispatch
import EvalConsole.Proofs.Start

namespace EvalConsole

-- What a line or a server comes to is never looked into here.
attribute [local irreducible] dispatch endpoint

theorem Evaluator.of_eq_ok_iff {server : String} {timeout : Option Nat} {e : Evaluator} :
    Evaluator.of server timeout = .ok e ↔
      EvalConsole.endpoint server = .ok e.endpoint ∧ e.timeout = timeout := by
  obtain ⟨url, time⟩ := e
  cases h : EvalConsole.endpoint server with
  | ok address => simp [Evaluator.of, h, Except.map, eq_comm]
  | error cause => simp [Evaluator.of, h, Except.map]

/-! ### The server and the evaluator change together -/

namespace Console

/-- What a session is about, and where its expressions go. -/
def target (c : Console) : Session × Evaluator :=
  (c.session, c.evaluator)

/-- What the two are after a request: only another server changes them, if there is an
evaluator for it. -/
def retarget (target : Session × Evaluator) : Request → Session × Evaluator
  | .changeServer server =>
    match Evaluator.of server target.2.timeout with
    | .ok evaluator => ({ target.1 with server }, evaluator)
    | .error _ => target
  | _ => target

@[simp] theorem target_perform (c : Console) (effects : List Effect) :
    (c.perform effects).target = c.target := rfl

@[simp] theorem target_accept (c : Console) (answer : Reaction × Files) :
    (c.accept answer).target = c.target := rfl

@[simp] theorem target_ask (c : Console) : c.ask.target = c.target := rfl

@[simp] theorem target_trigger (c : Console) (expression : String) :
    (c.trigger expression).target = c.target := rfl

@[simp] theorem target_drain (c : Console) : c.drain.target = c.target := by
  rw [drain]
  split <;> rfl

@[simp] theorem target_finish (c : Console) : c.finish.target = c.target := by
  rw [finish]
  split <;> rfl

theorem target_changeServer (c : Console) (server : String) :
    (c.changeServer server).target = retarget c.target (.changeServer server) := by
  have htime : c.target.2.timeout = c.evaluator.timeout := rfl
  rw [changeServer, retarget, htime]
  cases Evaluator.of server c.evaluator.timeout with
  | ok evaluator => rfl
  | error cause => rfl

theorem target_obey (c : Console) (line : String) (request : Request) :
    (c.obey line request).target = retarget c.target request := by
  cases request with
  | expression => rfl
  | handled => rfl
  | changeServer server => rw [obey, target_ask, target_changeServer]
  | quit => exact target_drain c

theorem target_readLine (c : Console) (line : String) :
    (c.readLine line).target = retarget c.target (dispatch line c.session c.files).1.request := by
  rw [readLine, target_obey, target_accept]

theorem target_receive (c : Console) (number : Nat) (network : Network) :
    (c.receive number network).target = c.target := by
  rw [receive]
  split
  · dsimp only
    split
    · exact target_finish _
    · rfl
  · rfl

/-- A step changes the server and the evaluator together, or neither. -/
theorem target_step (c : Console) (event : Event) :
    (c.step event).target = c.target ∨
      ∃ line, c.phase = .reading ∧ event = .line line ∧
        (c.step event).target = retarget c.target (dispatch line c.session c.files).1.request := by
  unfold step
  split
  · exact .inl rfl
  · exact .inl (target_receive _ _ _)
  · rename_i line hp
    exact .inr ⟨line, hp, rfl, target_readLine c line⟩
  · exact .inl (by rw [target_drain, target_perform])
  · exact .inl (by rw [target_drain, target_perform])
  · exact .inl (by rw [target_drain, target_perform])
  · exact .inl rfl
  · exact .inl rfl

/-! ### The evaluator is the one for the server -/

/-- The evaluator of a session is the one for its server. -/
def Serves (timeout : Option Nat) (target : Session × Evaluator) : Prop :=
  Evaluator.of target.1.server timeout = .ok target.2

theorem Serves.retarget {timeout : Option Nat} {target : Session × Evaluator}
    (h : Serves timeout target) (request : Request) :
    Serves timeout (retarget target request) := by
  have htime : target.2.timeout = timeout := (Evaluator.of_eq_ok_iff.mp h).2
  unfold Console.retarget
  split
  · rename_i server
    rw [htime]
    split
    · assumption
    · exact h
  · exact h

variable {c : Console} {timeout : Option Nat}

theorem Serves.step (h : Serves timeout c.target) (event : Event) :
    Serves timeout (c.step event).target := by
  obtain hsame | ⟨line, -, -, hline⟩ := target_step c event
  · rw [hsame]
    exact h
  · rw [hline]
    exact h.retarget _

/-- Whatever happens to a session, its evaluator stays the one for its server. -/
theorem run_serves (h : Serves timeout c.target) (events : List Event) :
    Serves timeout (c.run events).target := by
  induction events generalizing c with
  | nil => exact h
  | cons event rest ih => exact ih (h.step event)

end Console

/-! ### What a session makes of its lines -/

/-- The status of a session whose server is the address of something. -/
theorem Command.runStatus_of_endpoint {session : Session} {url : Url}
    (h : endpoint session.server = .ok url) :
    Command.runStatus session =
      ⟨.handled, "  server    " ++ session.server ++ "\n  endpoint  " ++ url.text
        ++ "\n  config    " ++ session.database ++ "\n", ""⟩ := by
  rw [Command.runStatus, h]

namespace Console

variable {c : Console} {line : String}

theorem step_line (h : c.phase = .reading) (line : String) :
    c.step (.line line) = c.readLine line := by
  unfold step
  rw [h]

theorem readLine_expression
    (h : (dispatch line c.session c.files).1.request = .expression) :
    (c.readLine line).tasks = c.tasks ++ [⟨⟨c.evaluator, line⟩, none⟩] ∧
      Effect.sent (c.readLine line).effects = Effect.sent c.effects ++ [⟨c.evaluator, line⟩] := by
  rw [readLine, h]
  constructor
  · rfl
  · simp [obey, accept, ask, trigger, submit, perform, Effect.sent]

/-- A reported change of the server is made if there is an evaluator for the new one, and
otherwise not at all. -/
theorem readLine_changeServer {server : String}
    (h : (dispatch line c.session c.files).1.request = .changeServer server) :
    (∀ url, endpoint server = .ok url →
      (c.readLine line).session = { c.session with server } ∧
        (c.readLine line).evaluator = ⟨url, c.evaluator.timeout⟩) ∧
    (∀ cause, endpoint server = .error cause →
      (c.readLine line).session = c.session ∧ (c.readLine line).evaluator = c.evaluator) := by
  have htarget := target_readLine c line
  rw [h] at htarget
  constructor
  · intro url hurl
    have hof : Evaluator.of server c.target.2.timeout = .ok ⟨url, c.evaluator.timeout⟩ :=
      Evaluator.of_eq_ok_iff.mpr ⟨hurl, rfl⟩
    rw [retarget, hof] at htarget
    exact Prod.mk.inj htarget
  · intro cause hcause
    have hof : Evaluator.of server c.target.2.timeout = .error cause := by
      rw [Evaluator.of, hcause]
      rfl
    rw [retarget, hof] at htarget
    exact Prod.mk.inj htarget

end Console

/-- **A session and its evaluator are in step**, whatever has happened since the start.
Expressions are posted to the endpoint of the session's server, which there always is; the
status shows that endpoint, and the next expression is sent there. A change of the server that
no evaluator can be made for leaves both as they were. -/
theorem Program.session_in_step {s : Surroundings} {c : Console} (hs : Program.start s = .console c)
    (hr : c.phase = .reading) (events : List Event) :
    let now := c.run events
    (∀ expression, (now.evaluator.request expression).method = .post ∧
      endpoint now.session.server = .ok (now.evaluator.request expression).url) ∧
    (∀ line, Command.ofWord? (splitLine line).1 = some .status →
      dispatch line now.session now.files =
        (⟨.handled, "  server    " ++ now.session.server ++ "\n  endpoint  "
          ++ now.evaluator.endpoint.text ++ "\n  config    " ++ now.session.database ++ "\n", ""⟩,
          now.files)) ∧
    (∀ line, now.phase = .reading →
      (dispatch line now.session now.files).1.request = .expression →
      (now.step (.line line)).tasks = now.tasks ++ [⟨⟨now.evaluator, line⟩, none⟩] ∧
        Effect.sent (now.step (.line line)).effects =
          Effect.sent now.effects ++ [⟨now.evaluator, line⟩]) ∧
    (∀ line server, now.phase = .reading →
      (dispatch line now.session now.files).1.request = .changeServer server →
      (∀ url, endpoint server = .ok url →
        (now.step (.line line)).session = { now.session with server } ∧
          (now.step (.line line)).evaluator = ⟨url, now.evaluator.timeout⟩) ∧
      (∀ cause, endpoint server = .error cause →
        (now.step (.line line)).session = now.session ∧
          (now.step (.line line)).evaluator = now.evaluator)) := by
  intro now
  obtain ⟨session, evaluator, files, timeout, hof, hc⟩ := Program.start_reading hs hr
  have hserves : Console.Serves timeout now.target := by
    refine Console.run_serves ?_ events
    rw [hc]
    exact hof
  have hend : endpoint now.session.server = .ok now.evaluator.endpoint :=
    (Evaluator.of_eq_ok_iff.mp hserves).1
  refine ⟨fun _ => ⟨rfl, hend⟩, ?_, ?_, ?_⟩
  · intro line hstatus
    rw [dispatch_of_command hstatus, Command.run, Command.runStatus_of_endpoint hend]
  · intro line hreading hexpression
    rw [Console.step_line hreading]
    exact Console.readLine_expression hexpression
  · intro line server hreading hchange
    rw [Console.step_line hreading]
    exact Console.readLine_changeServer hchange

/-- A database whose saved server is no address, and stays when it is removed. -/
def Surroundings.withStuckServer : Surroundings where
  arguments := ["-s", "http://a.example", "-d", "x.db"]
  home := "home"
  server := none
  files := ⟨[(["x.db"], .database (.view "nope" true))]⟩

theorem Program.session_in_step_stuck :
    ∃ c, Program.start .withStuckServer = .console c ∧ c.phase = .reading ∧
      (c.run [.line "/server reset"]).session.server = "http://a.example" ∧
      endpoint (c.run [.line "/server reset"]).session.server =
        .ok ((c.run [.line "/server reset"]).evaluator.request "1").url := by
  have hopens : Program.opens .withStuckServer
      fun c => (c.run [.line "/server reset"]).session.server == "http://a.example" := by
    decide +kernel
  obtain ⟨c, hs, hr, hserver⟩ := Program.exists_of_opens hopens
  refine ⟨c, hs, hr, beq_iff_eq.mp hserver, ?_⟩
  exact ((Program.session_in_step hs hr [.line "/server reset"]).1 "1").2

end EvalConsole
