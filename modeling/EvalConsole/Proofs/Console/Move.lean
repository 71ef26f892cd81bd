/-
What a step can do to a session.

* `Console.Move` lists what a step can do, `Console.step_move` says that it lists everything.
* `Console.tasks_readLine` and `Console.Move.getElem?_tasks`: tasks are added for lines, and a
  task that has ended stays as it is.
* `Console.run_induction`: what every move keeps is kept by a run.
-/
import EvalConsole.Proofs.Console.Lockstep

namespace EvalConsole

-- What a line or a server comes to is never looked into here.
attribute [local irreducible] dispatch endpoint

/-- Whether nothing more is read after an event. -/
def Event.closes : Event → Bool
  | .badLine _ => true
  | .endOfInput => true
  | .interrupt => true
  | _ => false

namespace Console

variable {c d : Console} {event : Event}

/-! ### What a step can do -/

/-- Deeds that neither begin an evaluation nor show a text. -/
def Quiet (written : List Effect) : Prop :=
  Effect.sent written = [] ∧ Effect.shown written = []

/-- What a step can do to a session: it does nothing, carries a line out, stops reading, ends
a task or gives the tasks up. -/
inductive Move (c : Console) : Event → Console → Prop where
  | nothing {event : Event} (h : c.phase ≠ .reading ∨ ∃ number network, event = .answer number network) :
      Move c event c
  | line (h : c.phase = .reading) (text : String) : Move c (.line text) (c.readLine text)
  | close {event : Event} (h : c.phase = .reading) (hcloses : event.closes) {written : List Effect}
      (hquiet : Quiet written) : Move c event (c.perform written).drain
  | complete (h : c.phase ≠ .ended) {number : Nat} {errand : Errand}
      (htask : c.tasks[number]? = some ⟨errand, none⟩) (network : Network) {outcome : Outcome}
      (hout : (errand.evaluator.evaluate network errand.expression).outcome = some outcome)
      (notices : List Notice) :
      Move c (.answer number network) (c.complete number errand notices outcome).finish
  | abandon (h : c.phase = .draining) : Move c .interrupt c.abandon

theorem receive_move (c : Console) (h : c.phase ≠ .ended) (number : Nat) (network : Network) :
    Move c (.answer number network) (c.receive number network) := by
  rw [receive]
  split
  · rename_i errand htask
    dsimp only
    split
    · rename_i outcome hout
      exact .complete h htask network hout _
    · exact .nothing (.inr ⟨number, network, rfl⟩)
  · exact .nothing (.inr ⟨number, network, rfl⟩)

/-- There is nothing else that a step can do. -/
theorem step_move (c : Console) (event : Event) : Move c event (c.step event) := by
  unfold step
  split
  · rename_i hp
    exact .nothing (.inl (by rw [hp]; nofun))
  · rename_i number network hp
    exact receive_move c hp number network
  · rename_i text hp
    exact .line hp text
  · rename_i hp
    exact .close hp rfl ⟨rfl, rfl⟩
  · rename_i hp
    exact .close hp rfl ⟨rfl, rfl⟩
  · rename_i hp
    exact .close hp rfl ⟨rfl, rfl⟩
  · rename_i hp
    exact .abandon hp
  -- no event is left that something is done for
  · rename_i other _ _ hanswer _ hline hbad hend hint _
    refine .nothing (.inl fun hr => ?_)
    cases other with
    | line text => exact hline text hr rfl
    | badLine cause => exact hbad cause hr rfl
    | endOfInput => exact hend hr rfl
    | interrupt => exact hint hr rfl
    | answer number network => exact hanswer number network rfl

/-! ### What operations leave alone -/

theorem phase_drain_ne (c : Console) : c.drain.phase ≠ .reading := by
  intro hr
  rw [drain] at hr
  split at hr <;> cases hr

theorem phase_finish_iff (c : Console) : c.finish.phase = .reading ↔ c.phase = .reading := by
  rw [finish]
  split
  · rfl
  · rename_i h
    have hne : c.phase ≠ .reading := fun hr => h (by rw [isWaiting, hr])
    refine ⟨fun hr => ?_, fun hr => absurd hr hne⟩
    cases hr

theorem frame_drain (c : Console) : c.drain.files = c.files ∧ c.drain.tasks = c.tasks := by
  rw [drain]
  split <;> exact ⟨rfl, rfl⟩

theorem frame_finish (c : Console) : c.finish.files = c.files ∧ c.finish.tasks = c.tasks := by
  rw [finish]
  split <;> exact ⟨rfl, rfl⟩

theorem isPending_iff {number : Nat} :
    c.isPending number = true ↔ ∃ errand, c.tasks[number]? = some ⟨errand, none⟩ := by
  rw [isPending]
  constructor
  · intro h
    split at h
    · rename_i task htask
      obtain ⟨errand, outcome⟩ := task
      obtain rfl := Option.isNone_iff_eq_none.mp h
      exact ⟨errand, htask⟩
    · cases h
  · rintro ⟨errand, htask⟩
    rw [htask]
    rfl

theorem tasks_accept (c : Console) (answer : Reaction × Files) :
    (c.accept answer).tasks = c.tasks := rfl

theorem tasks_changeServer (c : Console) (server : String) :
    (c.changeServer server).tasks = c.tasks := by
  rw [changeServer]
  split <;> rfl

/-- Tasks are added for lines, and they have no outcome yet. -/
theorem tasks_readLine (c : Console) (line : String) :
    ∃ added : List Task, (∀ task ∈ added, task.outcome = none) ∧
      (c.readLine line).tasks = c.tasks ++ added := by
  rw [readLine, ← tasks_accept c (dispatch line c.session c.files)]
  generalize c.accept (dispatch line c.session c.files) = d
  cases (dispatch line c.session c.files).1.request with
  | expression =>
    refine ⟨[⟨⟨d.evaluator, line⟩, none⟩], ?_, rfl⟩
    intro task hmem
    rw [List.mem_singleton.mp hmem]
  | handled => exact ⟨[], List.forall_mem_nil _, (List.append_nil _).symm⟩
  | changeServer server =>
    refine ⟨[], List.forall_mem_nil _, ?_⟩
    rw [List.append_nil]
    exact tasks_changeServer d server
  | quit =>
    refine ⟨[], List.forall_mem_nil _, ?_⟩
    rw [List.append_nil]
    exact (frame_drain d).2

/-! ### Tasks -/

/-- What depends on errands only is not changed when a task ends. -/
theorem map_set_of_errand {tasks : List Task} {β : Type} {f : Task → β} (hf : ∀ task : Task, f task = f ⟨task.errand, none⟩)
    {number : Nat} {errand : Errand} (h : tasks[number]? = some ⟨errand, none⟩)
    (outcome : Option Outcome) : (tasks.set number ⟨errand, outcome⟩).map f = tasks.map f := by
  induction tasks generalizing number with
  | nil => cases h
  | cons task rest ih =>
    cases number with
    | zero =>
      cases h
      rw [List.set_cons_zero, List.map_cons, List.map_cons, hf ⟨errand, outcome⟩]
    | succ number => rw [List.set_cons_succ, List.map_cons, List.map_cons, ih h]

/-- A task that has ended stays as it is. -/
theorem Move.getElem?_tasks (hmove : Move c event d) {number : Nat} {task : Task}
    (htask : c.tasks[number]? = some task) (hended : task.outcome.isSome) :
    d.tasks[number]? = some task := by
  cases hmove with
  | nothing _ => exact htask
  | line _ text =>
    obtain ⟨added, -, htasks⟩ := tasks_readLine c text
    have hlt : number < c.tasks.length := (List.getElem?_eq_some_iff.mp htask).1
    rw [htasks, List.getElem?_append_left hlt]
    exact htask
  | close _ _ _ =>
    rw [(frame_drain _).2]
    exact htask
  | @complete _ other errand hother network outcome _ notices =>
    rw [(frame_finish _).2]
    show (c.tasks.set other _)[number]? = some task
    have hne : other ≠ number := by
      rintro rfl
      cases hother.symm.trans htask
      cases hended
    rw [List.getElem?_set_ne hne]
    exact htask
  | abandon _ => exact htask

/-! ### Runs -/

/-- What moves keep is kept by a run. -/
theorem run_induction {P : Console → Prop} {events : List Event}
    (hstep : ∀ c d event, event ∈ events → P c → Move c event d → P d) (h : P c) :
    P (c.run events) := by
  induction events generalizing c with
  | nil => exact h
  | cons event rest ih =>
    have hnext : P (c.step event) :=
      hstep c _ event List.mem_cons_self h (step_move c event)
    exact ih (fun c d event hmem => hstep c d event (List.mem_cons_of_mem _ hmem)) hnext

theorem run_append (c : Console) (before after : List Event) :
    c.run (before ++ after) = (c.run before).run after :=
  List.foldl_append

theorem step_answer (hne : c.phase ≠ .ended) (number : Nat) (network : Network) :
    c.step (.answer number network) = c.receive number network := by
  unfold step
  cases hp : c.phase with
  | reading => rfl
  | draining => rfl
  | single => rfl
  | ended => exact absurd hp hne

/-- A task that has an outcome now has it after a run. -/
theorem run_getElem?_tasks {number : Nat} {task : Task} (htask : c.tasks[number]? = some task)
    (hended : task.outcome.isSome) (events : List Event) :
    (c.run events).tasks[number]? = some task :=
  run_induction (P := fun c => c.tasks[number]? = some task)
    (fun _ _ _ _ h hmove => hmove.getElem?_tasks h hended) htask

end Console

end EvalConsole
