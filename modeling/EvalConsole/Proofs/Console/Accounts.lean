/-
Every expression of a session is evaluated once and shown once.

At the end of a session there is a task for each expression of the input, and the display has
received two texts for each task.

* `Console.Move.ledger`: what a move adds to the tasks and to what has been sent and shown.
* `Console.Booked`: what has been sent and shown is what the tasks account for.
* `Console.Held`: a task that has not ended is among those that are waited for.
* `Console.Answered`: an outcome is what the evaluation with an answer came to.
* `Program.session_accounts` puts the three together with `Console.Follows`.
-/
import EvalConsole.Proofs.Console.Transcript

namespace EvalConsole

-- What a line or a server comes to is never looked into here.
attribute [local irreducible] dispatch endpoint

namespace Console

variable {c d : Console} {tasks : List Task} {effects : List Effect} {event : Event}

/-! ### What has been sent and shown -/

/-- The texts that a task accounts for: that it is running, and its outcome once it has
ended. -/
def Task.texts (task : Task) : List String :=
  runningText :: (task.outcome.map Outcome.render).toList

/-- Each task has been sent once, and of each task its texts have been shown once. Texts of
several tasks come in any order. -/
structure Booked (tasks : List Task) (effects : List Effect) : Prop where
  sent : Effect.sent effects = tasks.map Task.errand
  shown : (Effect.shown effects).Perm (tasks.flatMap Task.texts)

/-! ### What a move adds -/

/-- The tasks of a session, and what it has sent and shown. -/
structure Ledger where
  tasks : List Task
  sent : List Errand
  shown : List String

namespace Ledger

/-- A task is made: its expression is sent, and it is shown to be running. -/
def submit (l : Ledger) (errand : Errand) : Ledger :=
  ⟨l.tasks ++ [⟨errand, none⟩], l.sent ++ [errand], l.shown ++ [runningText]⟩

/-- A task ends, and its outcome is shown. -/
def answer (l : Ledger) (number : Nat) (errand : Errand) (outcome : Outcome) : Ledger :=
  ⟨l.tasks.set number ⟨errand, some outcome⟩, l.sent, l.shown ++ [outcome.render]⟩

end Ledger

/-- What a session has made so far. -/
def ledger (c : Console) : Ledger :=
  ⟨c.tasks, Effect.sent c.effects, Effect.shown c.effects⟩

theorem ledger_perform (c : Console) {written : List Effect} (hquiet : Quiet written) :
    (c.perform written).ledger = c.ledger := by
  rw [ledger, perform, Effect.sent_append, Effect.shown_append, hquiet.1, hquiet.2,
    List.append_nil, List.append_nil]
  rfl

theorem ledger_accept (c : Console) (answer : Reaction × Files) :
    (c.accept answer).ledger = c.ledger :=
  ledger_perform { c with files := answer.2 } ⟨rfl, rfl⟩

theorem ledger_submit (c : Console) (expression : String) :
    (c.submit expression).ledger = c.ledger.submit ⟨c.evaluator, expression⟩ := by
  rw [submit, ledger, perform, Effect.sent_append, Effect.shown_append]
  rfl

theorem ledger_drain (c : Console) : c.drain.ledger = c.ledger := by
  rw [drain]
  split
  · rfl
  · exact ledger_perform _ ⟨rfl, rfl⟩

theorem ledger_finish (c : Console) : c.finish.ledger = c.ledger := by
  rw [finish]
  split <;> rfl

theorem ledger_changeServer (c : Console) (server : String) :
    (c.changeServer server).ledger = c.ledger := by
  rw [changeServer]
  split
  · rfl
  · exact ledger_perform c ⟨rfl, rfl⟩

theorem sent_map_note (notices : List Notice) : Effect.sent (notices.map Effect.note) = [] := by
  simp [Effect.sent]

theorem shown_map_note (notices : List Notice) : Effect.shown (notices.map Effect.note) = [] := by
  simp [Effect.shown]

theorem ledger_complete (c : Console) (number : Nat) (errand : Errand) (notices : List Notice)
    (outcome : Outcome) : (c.complete number errand notices outcome).ledger =
      c.ledger.answer number errand outcome := by
  rw [complete, ledger, perform, Effect.sent_append, Effect.shown_append, Effect.sent_append,
    Effect.shown_append, sent_map_note, shown_map_note]
  exact congrArg (fun sent => (⟨_, sent, _⟩ : Ledger)) (List.append_nil _)

theorem ledger_obey (c : Console) (line : String) (request : Request) :
    (c.obey line request).ledger = c.ledger ∨
      ∃ errand, (c.obey line request).ledger = c.ledger.submit errand := by
  have hask (c : Console) : c.ask.ledger = c.ledger := c.ledger_perform ⟨rfl, rfl⟩
  cases request with
  | expression => exact .inr ⟨_, (hask _).trans (ledger_submit _ line)⟩
  | handled => exact .inl (hask c)
  | changeServer server => exact .inl ((hask _).trans (c.ledger_changeServer server))
  | quit => exact .inl c.ledger_drain

/-- A move makes a task, or ends one, or sends and shows nothing. -/
theorem Move.ledger (hmove : Move c event d) :
    d.ledger = c.ledger ∨ (∃ errand, d.ledger = c.ledger.submit errand) ∨
      ∃ number errand outcome, c.tasks[number]? = some ⟨errand, none⟩ ∧
        d.ledger = c.ledger.answer number errand outcome := by
  cases hmove with
  | nothing _ => exact .inl rfl
  | line _ text =>
    have hobey := (c.accept (dispatch text c.session c.files)).ledger_obey text
      (dispatch text c.session c.files).1.request
    rw [ledger_accept] at hobey
    exact hobey.imp_right .inl
  | close _ _ hquiet => exact .inl ((ledger_drain _).trans (c.ledger_perform hquiet))
  | complete _ htask network _ notices =>
    exact .inr (.inr ⟨_, _, _, htask, (ledger_finish _).trans (ledger_complete ..)⟩)
  | abandon _ => exact .inl (ledger_perform _ ⟨rfl, rfl⟩)

/-- When a task ends, its outcome is all that is added to the texts of the tasks. -/
theorem flatMap_texts_set {number : Nat} {errand : Errand}
    (h : tasks[number]? = some ⟨errand, none⟩) (outcome : Outcome) :
    ((tasks.set number ⟨errand, some outcome⟩).flatMap Task.texts).Perm
      (tasks.flatMap Task.texts ++ [outcome.render]) := by
  induction tasks generalizing number with
  | nil => cases h
  | cons task rest ih =>
    cases number with
    | zero =>
      cases h
      exact (List.perm_append_singleton _ _).symm.cons runningText
    | succ number =>
      rw [List.set_cons_succ, List.flatMap_cons, List.flatMap_cons, List.append_assoc]
      exact (ih h).append_left _

theorem booked_iff : Booked c.tasks c.effects ↔ c.ledger.sent = c.ledger.tasks.map Task.errand ∧
    c.ledger.shown.Perm (c.ledger.tasks.flatMap Task.texts) :=
  ⟨fun h => ⟨h.sent, h.shown⟩, fun h => ⟨h.1, h.2⟩⟩

theorem Booked.move (h : Booked c.tasks c.effects) (hmove : Move c event d) :
    Booked d.tasks d.effects := by
  rw [booked_iff] at h ⊢
  obtain ⟨hsent, hshown⟩ := h
  rcases hmove.ledger with hsame | ⟨errand, hmade⟩ | ⟨number, errand, outcome, htask, hended⟩
  · rw [hsame]
    exact ⟨hsent, hshown⟩
  · rw [hmade, Ledger.submit, List.map_append, List.flatMap_append, hsent]
    exact ⟨rfl, hshown.append_right _⟩
  · rw [hended, Ledger.answer]
    constructor
    · exact hsent.trans (map_set_of_errand (fun _ => rfl) htask _).symm
    · exact (hshown.append_right _).trans (flatMap_texts_set htask outcome).symm

/-- The first text that is shown is that the first task is running. -/
def FirstRunning (c : Console) : Prop :=
  c.ledger.shown.head? = c.ledger.tasks.head?.map fun _ => runningText

theorem FirstRunning.move (h : FirstRunning c) (hmove : Move c event d) : FirstRunning d := by
  rw [FirstRunning] at h ⊢
  rcases hmove.ledger with hsame | ⟨errand, hmade⟩ | ⟨number, errand, outcome, htask, hended⟩
  · rw [hsame]
    exact h
  · rw [hmade, Ledger.submit, List.head?_append, List.head?_append, h]
    cases c.ledger.tasks.head? <;> rfl
  · rw [hended, Ledger.answer, List.head?_append, h]
    -- the task that ends is there, so something has been shown before
    obtain ⟨first, rest, htasks⟩ : ∃ first rest, c.ledger.tasks = first :: rest :=
      List.exists_cons_of_ne_nil (List.ne_nil_of_mem (List.mem_of_getElem? htask))
    rw [htasks]
    cases number <;> rfl

/-! ### Tasks that have not ended are waited for -/

/-- A task that has not ended is kept hold of; tasks that have not ended are what is waited
for after the last line, and there are none at the end. -/
structure Held (c : Console) : Prop where
  session : c.phase ≠ .single
  held : ∀ number, c.isPending number = true → number ∈ c.handles
  draining : c.phase = .draining → ∃ number, c.isPending number = true
  ended : c.phase = .ended → ∀ number, c.isPending number = false

theorem Held.of_reading (hr : c.phase = .reading)
    (h : ∀ number, c.isPending number = true → number ∈ c.handles) : Held c where
  session hs := by cases hr.symm.trans hs
  held := h
  draining hd := by cases hr.symm.trans hd
  ended he := by cases hr.symm.trans he

theorem Held.of_draining (hd : c.phase = .draining)
    (h : ∀ number, c.isPending number = true → number ∈ c.handles)
    (hpending : ∃ number, c.isPending number = true) : Held c where
  session hs := by cases hd.symm.trans hs
  held := h
  draining _ := hpending
  ended he := by cases hd.symm.trans he

theorem Held.of_ended (he : c.phase = .ended) (h : ∀ number, c.isPending number = false) :
    Held c where
  session hs := by cases he.symm.trans hs
  held number hp := by cases (h number).symm.trans hp
  draining hd := by cases he.symm.trans hd
  ended _ := h

theorem Held.perform (h : Held c) (written : List Effect) : Held (c.perform written) :=
  ⟨h.session, h.held, h.draining, h.ended⟩

theorem Held.trigger (h : Held c) (hr : c.phase = .reading) (expression : String) :
    Held (c.trigger expression) := by
  refine .of_reading hr fun number hp => ?_
  obtain ⟨errand, htask⟩ := isPending_iff.mp hp
  replace htask : (c.tasks ++ [_])[number]? = some ⟨errand, none⟩ := htask
  show number ∈ c.handles.filter c.isPending ++ [c.tasks.length]
  rw [List.mem_append, List.mem_singleton, List.mem_filter]
  -- a task from before is still held, and the new one is held from now on
  by_cases hlt : number < c.tasks.length
  · rw [List.getElem?_append_left hlt] at htask
    have hpending : c.isPending number = true := isPending_iff.mpr ⟨errand, htask⟩
    exact .inl ⟨h.held number hpending, hpending⟩
  · have hle : number < (c.tasks ++ [_]).length := (List.getElem?_eq_some_iff.mp htask).1
    rw [List.length_append, List.length_singleton] at hle
    exact .inr (by omega)

theorem Held.changeServer (h : Held c) (server : String) : Held (c.changeServer server) := by
  rw [Console.changeServer]
  split
  · exact ⟨h.session, h.held, h.draining, h.ended⟩
  · exact h.perform _

theorem Held.drain (h : Held c) : Held c.drain := by
  have hmem : ∀ number, c.isPending number = true → number ∈ c.handles.filter c.isPending :=
    fun number hp => List.mem_filter.mpr ⟨h.held number hp, hp⟩
  rw [Console.drain]
  split
  · rename_i hnone
    have hnever : ∀ number, c.isPending number = false := by
      intro number
      rw [← Bool.not_eq_true]
      intro hp
      have hin := hmem number hp
      rw [List.isEmpty_iff.mp hnone] at hin
      cases hin
    exact .of_ended rfl hnever
  · rename_i hsome
    obtain ⟨number, hnumber⟩ := List.exists_mem_of_ne_nil _ (mt List.isEmpty_iff.mpr hsome)
    exact .of_draining rfl hmem ⟨number, (List.mem_filter.mp hnumber).2⟩

theorem Held.obey (h : Held c) (hr : c.phase = .reading) (line : String) (request : Request) :
    Held (c.obey line request) := by
  cases request with
  | expression => exact (h.trigger hr line).perform _
  | handled => exact h.perform _
  | changeServer server => exact (h.changeServer server).perform _
  | quit => exact h.drain

/-- When a task has ended, the session may have nothing left to wait for, and ends. -/
theorem Held.complete (h : Held c) (hne : c.phase ≠ .ended) {number : Nat} {errand : Errand}
    (notices : List Notice) (outcome : Outcome) :
    Held (c.complete number errand notices outcome).finish := by
  have hheld : ∀ other, (c.complete number errand notices outcome).isPending other = true →
      other ∈ (c.complete number errand notices outcome).handles := by
    intro other hp
    obtain ⟨errand', htask⟩ := isPending_iff.mp hp
    replace htask : (c.tasks.set number _)[other]? = some ⟨errand', none⟩ := htask
    rw [List.getElem?_set] at htask
    -- the task itself has ended, and the others are as they were
    split at htask
    · split at htask <;> cases htask
    · exact h.held other (isPending_iff.mpr ⟨errand', htask⟩)
  generalize hd : c.complete number errand notices outcome = d at hheld ⊢
  have hphase : d.phase = c.phase := by
    rw [← hd]
    rfl
  rw [finish, isWaiting]
  cases hc : d.phase with
  | reading => exact .of_reading hc hheld
  | single => exact absurd (hphase.symm.trans hc) h.session
  | ended => exact absurd (hphase.symm.trans hc) hne
  | draining =>
    dsimp only
    split
    · rename_i hsome
      obtain ⟨other, -, hp⟩ := List.any_eq_true.mp hsome
      exact .of_draining hc hheld ⟨other, hp⟩
    · rename_i hnone
      have hnever : ∀ other, d.isPending other = false := by
        intro other
        rw [← Bool.not_eq_true]
        exact fun hp => hnone (List.any_eq_true.mpr ⟨other, hheld other hp, hp⟩)
      exact .of_ended rfl hnever

theorem Held.move (h : Held c) (hmove : Move c event d) (hi : event ≠ .interrupt) : Held d := by
  cases hmove with
  | nothing _ => exact h
  | line hr text =>
    have hread : Held (c.accept (dispatch text c.session c.files)) :=
      ⟨h.session, h.held, h.draining, h.ended⟩
    exact hread.obey hr text _
  | close _ _ _ => exact (h.perform _).drain
  | complete hne _ _ _ notices => exact h.complete hne notices _
  | abandon _ => exact absurd rfl hi

/-! ### Outcomes -/

/-- The outcomes of tasks are what evaluations with the answers to them came to. -/
def Answered (events : List Event) (tasks : List Task) : Prop :=
  ∀ number task outcome, tasks[number]? = some task → task.outcome = some outcome →
    ∃ network, .answer number network ∈ events ∧
      (task.errand.evaluator.evaluate network task.errand.expression).outcome = some outcome

theorem Answered.move {events : List Event} (h : Answered events c.tasks) (hmove : Move c event d)
    (hevent : event ∈ events) : Answered events d.tasks := by
  cases hmove with
  | nothing _ => exact h
  | line _ text =>
    obtain ⟨added, hnone, htasks⟩ := tasks_readLine c text
    rw [htasks]
    intro number task outcome htask hout
    rw [List.getElem?_append] at htask
    split at htask
    · exact h number task outcome htask hout
    · rw [hnone task (List.mem_of_getElem? htask)] at hout
      cases hout
  | close _ _ _ =>
    rw [(frame_drain _).2]
    exact h
  | @complete _ number errand htask network outcome hout notices =>
    rw [(frame_finish _).2]
    show Answered events (c.tasks.set number ⟨errand, some outcome⟩)
    intro other task found htask' hfound
    rw [List.getElem?_set] at htask'
    split at htask'
    · rename_i hsame
      subst hsame
      split at htask' <;> cases htask'
      cases hfound
      exact ⟨network, hevent, hout⟩
    · exact h other task found htask' hfound
  | abandon _ => exact h

/-! ### Runs -/

/-- The task with a number is answered: after it was made, an answer to it arrives that its
evaluation comes to an outcome with. -/
def IsAnswered (c : Console) (events : List Event) (number : Nat) : Prop :=
  ∃ before network after task,
    events = before ++ .answer number network :: after ∧
    (c.run before).tasks[number]? = some task ∧
    (task.errand.evaluator.evaluate network task.errand.expression).outcome.isSome

theorem Booked.run (h : Booked c.tasks c.effects) (events : List Event) :
    Booked (c.run events).tasks (c.run events).effects :=
  run_induction (P := fun c => Booked c.tasks c.effects) (fun _ _ _ _ h hmove => h.move hmove) h

theorem Answered.run {events : List Event} (h : c.tasks = []) :
    Answered events (c.run events).tasks := by
  refine run_induction (P := fun c => Answered events c.tasks)
    (fun _ _ _ hmem h hmove => h.move hmove hmem) ?_
  intro number task outcome htask
  rw [h] at htask
  cases htask

theorem Held.run (h : Held c) {events : List Event} (hi : .interrupt ∉ events) :
    Held (c.run events) := by
  refine run_induction (fun c d event hmem hc hmove => hc.move hmove ?_) h
  rintro rfl
  exact hi hmem

/-- A task that is answered ends. -/
theorem Held.exists_outcome (h : Held c) {events : List Event} (hi : .interrupt ∉ events)
    {number : Nat} (hanswered : c.IsAnswered events number) :
    ∃ task, (c.run events).tasks[number]? = some task ∧ task.outcome.isSome := by
  obtain ⟨before, network, after, ⟨errand, earlier⟩, rfl, htask, hout⟩ := hanswered
  have hheld : Held (c.run before) := h.run fun hmem => hi (List.mem_append_left _ hmem)
  rw [run_append]
  -- the task may have ended on an earlier answer; otherwise it ends on this one
  cases earlier with
  | some outcome => exact ⟨⟨errand, some outcome⟩, run_getElem?_tasks htask rfl _, rfl⟩
  | none =>
    have hne : (c.run before).phase ≠ .ended := by
      intro he
      cases (hheld.ended he number).symm.trans (isPending_iff.mpr ⟨errand, htask⟩)
    -- the session has not ended, so the answer is received
    obtain ⟨outcome, hsome⟩ := Option.isSome_iff_exists.mp hout
    refine ⟨⟨errand, some outcome⟩, run_getElem?_tasks ?_ rfl after, rfl⟩
    have hlt : number < (c.run before).tasks.length := (List.getElem?_eq_some_iff.mp htask).1
    rw [step_answer hne, receive, htask]
    dsimp only
    rw [hsome, (frame_finish _).2]
    exact List.getElem?_set_self hlt

end Console

/-! ### Whole sessions -/

namespace Console

variable {c : Console} {timeout : Option Nat}

/-- A session that waits for its first line: it has no tasks, and it has sent and shown nothing. -/
structure Fresh (timeout : Option Nat) (c : Console) : Prop where
  reading : c.phase = .reading
  serves : Serves timeout c.target
  tasks : c.tasks = []
  quiet : Quiet c.effects

theorem fresh_begun {session : Session} {evaluator : Evaluator} (files : Files)
    (hof : Evaluator.of session.server timeout = .ok evaluator) :
    Fresh timeout (Program.begun session evaluator files none) :=
  ⟨rfl, hof, rfl, rfl, rfl⟩

namespace Fresh

theorem follows (h : Fresh timeout c) (events : List Event) :
    Follows timeout ((Transcript.opened c.session c.files).after events) (c.run events) := by
  refine Follows.run ⟨iff_of_true h.reading rfl, rfl, rfl, h.serves, ?_⟩ events
  rw [h.tasks]
  rfl

theorem booked (h : Fresh timeout c) (events : List Event) :
    Booked (c.run events).tasks (c.run events).effects := by
  refine Booked.run ⟨?_, ?_⟩ events
  · rw [h.tasks]
    exact h.quiet.1
  · rw [h.tasks, h.quiet.2]
    exact .nil

theorem firstRunning (h : Fresh timeout c) (events : List Event) :
    FirstRunning (c.run events) := by
  refine run_induction (P := FirstRunning) (fun _ _ _ _ h hmove => h.move hmove) ?_
  rw [FirstRunning, ledger, h.tasks, h.quiet.2]
  rfl

theorem held (h : Fresh timeout c) : Held c := by
  refine .of_reading h.reading fun number hp => ?_
  obtain ⟨errand, htask⟩ := isPending_iff.mp hp
  rw [h.tasks] at htask
  cases htask

end Fresh

end Console

/-- A session that a start comes to waits for its first line. -/
theorem Program.start_fresh {s : Surroundings} {c : Console} (hs : Program.start s = .console c)
    (hr : c.phase = .reading) : ∃ timeout, Console.Fresh timeout c := by
  obtain ⟨session, evaluator, files, timeout, hof, rfl⟩ := Program.start_reading hs hr
  exact ⟨timeout, Console.fresh_begun files hof⟩

theorem Evaluator.map_endpoint_of (server : String) (timeout : Option Nat) :
    (Evaluator.of server timeout).map Evaluator.endpoint = EvalConsole.endpoint server := by
  rw [Evaluator.of]
  cases EvalConsole.endpoint server <;> rfl

namespace Console

variable {c : Console} {timeout : Option Nat} {t : Transcript}

/-- Expressions are sent to the endpoints of their servers. -/
theorem Follows.map_sent (h : Follows timeout t c) (hbooked : Booked c.tasks c.effects) :
    (Effect.sent c.effects).map
        (fun errand => (errand.expression, Except.ok errand.evaluator.endpoint)) =
      t.asked.map fun asked => (asked.1, endpoint asked.2) := by
  have hgoes := congrArg
    (List.map fun order => (order.1, order.2.map Evaluator.endpoint)) h.asked
  rw [List.map_map, List.map_map] at hgoes
  rw [hbooked.sent, List.map_map]
  refine hgoes.trans (List.map_congr_left fun asked _ => ?_)
  exact congrArg (Prod.mk asked.1) (Evaluator.map_endpoint_of asked.2 timeout)

/-- When no task is waited for, there is one outcome for each of them. -/
theorem exists_outcomes {tasks : List Task} (h : ∀ task ∈ tasks, task.outcome.isSome) :
    ∃ outcomes : List Outcome, tasks.map Task.outcome = outcomes.map some := by
  induction tasks with
  | nil => exact ⟨[], rfl⟩
  | cons task rest ih =>
    obtain ⟨outcomes, houtcomes⟩ := ih fun other hmem => h other (List.mem_cons_of_mem _ hmem)
    obtain ⟨outcome, hout⟩ := Option.isSome_iff_exists.mp (h task List.mem_cons_self)
    exact ⟨outcome :: outcomes, by rw [List.map_cons, List.map_cons, hout, houtcomes]⟩

theorem flatMap_texts_of_outcomes {tasks : List Task} {outcomes : List Outcome}
    (h : tasks.map Task.outcome = outcomes.map some) :
    tasks.flatMap Task.texts = outcomes.flatMap fun outcome => [runningText, outcome.render] := by
  have htexts := congrArg
    (List.flatMap fun outcome => runningText :: (outcome.map Outcome.render).toList) h
  rwa [List.flatMap_map, List.flatMap_map] at htexts

theorem Held.isSome_of_ended (h : Held c) (he : c.phase = .ended) :
    ∀ task ∈ c.tasks, task.outcome.isSome := by
  rintro ⟨errand, outcome⟩ hmem
  obtain ⟨number, hnumber⟩ := List.getElem?_of_mem hmem
  cases outcome with
  | some outcome => rfl
  | none => cases (h.ended he number).symm.trans (isPending_iff.mpr ⟨errand, hnumber⟩)

/-- A session that has nothing more to read ends when every task is answered. -/
theorem Held.phase_eq_ended (h : Held c) (hclosed : c.phase ≠ .reading)
    (hall : ∀ number < c.tasks.length, ∃ task, c.tasks[number]? = some task ∧ task.outcome.isSome) :
    c.phase = .ended := by
  cases hp : c.phase with
  | reading => exact absurd hp hclosed
  | single => exact absurd hp h.session
  | ended => rfl
  | draining =>
    obtain ⟨number, hpending⟩ := h.draining hp
    obtain ⟨errand, htask⟩ := isPending_iff.mp hpending
    obtain ⟨task, hsome, hout⟩ := hall number (List.getElem?_eq_some_iff.mp htask).1
    cases htask.symm.trans hsome
    cases hout

end Console

/-- **No expression of a session is lost, sent twice, altered or sent elsewhere.** A session
whose input ends, and whose expressions are all answered, ends. At its end each expression of
the input has been sent once, verbatim, to the endpoint of the server in effect when it was
read; for each of them the display has received that it is running and the outcome of its
evaluation, and nothing else has been sent or shown. -/
theorem Program.session_accounts {s : Surroundings} {c : Console} {events : List Event}
    (hs : Program.start s = .console c) (hr : c.phase = .reading) (hi : .interrupt ∉ events) :
    let input := (Transcript.opened c.session c.files).after events
    let last := c.run events
    (input.closed → (∀ number < input.asked.length, c.IsAnswered events number) →
      last.phase = .ended) ∧
    (last.phase = .ended →
      input.closed ∧ ∃ outcomes : List Outcome,
        outcomes.length = input.asked.length ∧
        (Effect.sent last.effects).map
            (fun errand => (errand.expression, Except.ok errand.evaluator.endpoint)) =
          input.asked.map (fun asked => (asked.1, endpoint asked.2)) ∧
        (∀ number errand outcome, (Effect.sent last.effects)[number]? = some errand →
          outcomes[number]? = some outcome →
          ∃ network, .answer number network ∈ events ∧
            (errand.evaluator.evaluate network errand.expression).outcome = some outcome) ∧
        (Effect.shown last.effects).Perm
          (outcomes.flatMap fun outcome => [runningText, outcome.render])) := by
  intro input last
  obtain ⟨timeout, hfresh⟩ := Program.start_fresh hs hr
  have hfollows : Console.Follows timeout input last := hfresh.follows events
  have hbooked : Console.Booked last.tasks last.effects := hfresh.booked events
  have hheld : Console.Held last := hfresh.held.run hi
  have hanswered : Console.Answered events last.tasks := Console.Answered.run hfresh.tasks
  have hlength : last.tasks.length = input.asked.length := by
    have hboth := congrArg List.length hfollows.asked
    rwa [List.length_map, List.length_map] at hboth
  constructor
  · intro hclosed hall
    refine hheld.phase_eq_ended (fun hreading => ?_) fun number hlt => ?_
    · cases hclosed.symm.trans (hfollows.reading.mp hreading)
    · rw [hlength] at hlt
      exact hfresh.held.exists_outcome hi (hall number hlt)
  · intro he
    have hclosed : input.closed = true := by
      have hne : last.phase ≠ .reading := by
        rw [he]
        nofun
      simpa using mt hfollows.reading.mpr hne
    -- nothing is held at the end, so every task has its outcome
    obtain ⟨outcomes, houtcomes⟩ := Console.exists_outcomes (hheld.isSome_of_ended he)
    refine ⟨hclosed, outcomes, ?_, hfollows.map_sent hbooked, ?_, ?_⟩
    · have hboth := congrArg List.length houtcomes
      rw [List.length_map, List.length_map, hlength] at hboth
      exact hboth.symm
    · intro number errand outcome herrand hout
      rw [hbooked.sent, List.getElem?_map, Option.map_eq_some_iff] at herrand
      obtain ⟨task, htask, rfl⟩ := herrand
      refine hanswered number task outcome htask ?_
      have hsame : (last.tasks.map Console.Task.outcome)[number]? = (outcomes.map some)[number]? := by
        rw [houtcomes]
      rw [List.getElem?_map, List.getElem?_map, htask, hout] at hsame
      exact Option.some.inj hsame
    · rw [← Console.flatMap_texts_of_outcomes houtcomes]
      exact hbooked.shown

/-- A session without settings. -/
def Surroundings.plain : Surroundings where
  arguments := ["-s", "http://a.example"]
  home := "home"
  server := none
  files := .empty

/-- The server changes while an expression is on its way, the answers arrive in the other
order, and one expression stands behind the end. -/
def Event.overtaking : List Event :=
  [.line "1", .line "/server http://b.example", .line " 2", .answer 1 .offline, .line "/quit",
    .line "3", .answer 0 (.online [.close])]

theorem Program.session_accounts_overtaking :
    ∃ c, Program.start .plain = .console c ∧ c.phase = .reading ∧
      .interrupt ∉ Event.overtaking ∧ (c.run Event.overtaking).phase = .ended ∧
      (Effect.sent (c.run Event.overtaking).effects).map
          (fun errand => (errand.expression, Except.ok errand.evaluator.endpoint)) =
        [("1", endpoint "http://a.example"), (" 2", endpoint "http://b.example")] ∧
      ∃ outcomes : List Outcome, outcomes.length = 2 ∧
        (Effect.shown (c.run Event.overtaking).effects).Perm
          (outcomes.flatMap fun outcome => [runningText, outcome.render]) := by
  have hopens : Program.opens .plain fun c => (c.run Event.overtaking).phase == .ended &&
      ((Transcript.opened c.session c.files).after Event.overtaking).asked ==
        [("1", "http://a.example"), (" 2", "http://b.example")] := by
    decide +kernel
  obtain ⟨c, hs, hr, htest⟩ := Program.exists_of_opens hopens
  rw [Bool.and_eq_true, beq_iff_eq, beq_iff_eq] at htest
  obtain ⟨he, hasked⟩ := htest
  have hi : .interrupt ∉ Event.overtaking := by simp [Event.overtaking]
  obtain ⟨-, outcomes, hlength, hsent, -, hshown⟩ := (Program.session_accounts hs hr hi).2 he
  rw [hasked] at hlength hsent
  exact ⟨c, hs, hr, hi, he, hsent, outcomes, hlength, hshown⟩

end EvalConsole
