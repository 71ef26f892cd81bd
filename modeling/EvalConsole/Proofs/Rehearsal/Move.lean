/-
What a step can do to submissions answered from a script.

A step opens at most one submission, and then it is a sequence of moves; a move concerns one
submission, one call or one gate.

* `Rehearsal.opening` is the state after a step has opened its submission.
* `Rehearsal.Move` are the moves of a step, by what the step does from outside.
* `Rehearsal.Ran` is what running one task comes to.
* `Rehearsal.step_moves`: every step is its opening and then a sequence of its moves.
* `Rehearsal.run_induction`: what openings and moves preserve holds after every run.

Design notes
------------
The moves that the tasks make on their own (`finish`, `complete`, `discard`, `quiet`) belong
to every step; the others belong to steps that do a particular thing from outside. A call and
what becomes of its submission are one move, so that no state between two moves has a call
without an owner.
-/
import Mathlib.Logic.Relation
import EvalConsole.Proofs.Rehearsal.Progress

namespace EvalConsole.Rehearsal

variable {s s' : Rehearsal}

/-! ### Moves -/

/-- The submission that something done from outside opens. -/
def opens (s : Rehearsal) : Action → Option Caller
  | .trigger _ => some (.task s.tasks.length)
  | .submit _ => some (.submission s.submissions.length)
  | _ => none

/-- The state after something done from outside has opened its submission. -/
def opening (s : Rehearsal) : Action → Rehearsal
  | .trigger input => s.trigger input
  | .submit input => s.present input
  | _ => s

/-- A move of a step that does something from outside. -/
inductive Move (s : Rehearsal) : Action → Rehearsal → Prop where
  /-- A submission that waits at a gate is given up. -/
  | giveUp {input : String} {number call : Nat}
      (h : s.progressOf (.submission number) = some (.waiting call)) :
      Move s (.submit input) (s.setProgress (.submission number) .aborted)
  | evaluate (input : String) : Move s (.evaluate input) (s.call .direct input).2
  | release {gate task : Nat} (h : s.progressOf (.task task) = some (.waiting gate)) :
      Move s (.release gate) (s.setProgress (.task task) (.released gate))
  | requestAbort {task : Nat} (h : task < s.tasks.length) :
      Move s (.abort task) (s.requestAbort task)
  | finish {action : Action} {caller : Caller} {input : String}
      (h : s.progressOf caller = some (.queued input))
      (ha : s.isAbortRequested caller = false) : Move s action (s.finish caller input).2
  | complete {action : Action} {caller : Caller} {number : Nat}
      (h : s.progressOf caller = some (.released number))
      (ha : s.isAbortRequested caller = false) : Move s action (s.complete caller number)
  | discard {action : Action} {task : Nat} {progress : Progress}
      (h : s.progressOf (.task task) = some progress) (hp : progress.completed? = none)
      (ha : s.isAbortRequested (.task task) = true) :
      Move s action (s.setProgress (.task task) .aborted)
  /-- Only the releases and the tasks able to run are others. -/
  | quiet {action : Action} (kept runnable : List Nat) :
      Move s action { s with kept, runnable }

/-- Moves one after the other. -/
def Moves (action : Action) : Rehearsal → Rehearsal → Prop :=
  Relation.ReflTransGen fun s s' => Move s action s'

namespace Moves

variable {action : Action}

theorem refl (s : Rehearsal) : Moves action s s :=
  Relation.ReflTransGen.refl

theorem single (h : Move s action s') : Moves action s s' :=
  Relation.ReflTransGen.single h

theorem trans {s'' : Rehearsal} (h : Moves action s s') (h' : Moves action s' s'') :
    Moves action s s'' :=
  Relation.ReflTransGen.trans h h'

theorem tail {s'' : Rehearsal} (h : Moves action s s') (h' : Move s' action s'') :
    Moves action s s'' :=
  Relation.ReflTransGen.tail h h'

/-- What every move preserves is preserved by moves one after the other. -/
theorem induction {P : Rehearsal → Prop} (h : Moves action s s')
    (move : ∀ s s', P s → Move s action s' → P s') (hs : P s) : P s' := by
  induction h with
  | refl => exact hs
  | tail _ hmove ih => exact move _ _ ih hmove

end Moves

/-! ### What a move makes of a submission -/

/-- How the submission of a caller can go on. -/
inductive Proceeds (s : Rehearsal) (caller : Caller) : Progress → Progress → Prop where
  | wait {input : String} {call : Nat} (ha : s.isAbortRequested caller = false) :
      Proceeds s caller (.queued input) (.waiting call)
  | answer {input : String} {call : Nat} (ha : s.isAbortRequested caller = false) :
      Proceeds s caller (.queued input) (.completed call)
  | release {call : Nat} : Proceeds s caller (.waiting call) (.released call)
  | complete {call : Nat} (ha : s.isAbortRequested caller = false) :
      Proceeds s caller (.released call) (.completed call)
  | discard {progress : Progress} (hp : progress.completed? = none)
      (ha : s.isAbortRequested caller = true) : Proceeds s caller progress .aborted
  /-- Nobody waits for the submission any longer. -/
  | giveUp {number call : Nat} (hcaller : caller = .submission number) :
      Proceeds s caller (.waiting call) .aborted

/-- A submission that has ended can only stay as it is. -/
theorem Proceeds.eq_of_isEnded {caller : Caller} {progress next : Progress}
    (h : s.Proceeds caller progress next) (he : progress.isEnded) : next = progress := by
  cases h with
  | wait ha => cases he
  | answer ha => cases he
  | release => cases he
  | complete ha => cases he
  | giveUp hcaller => cases he
  | discard hp ha =>
    cases progress with
    | aborted => rfl
    | completed call => cases hp
    | queued input => cases he
    | waiting call => cases he
    | released call => cases he

/-- A submission whose end has been asked for does not complete. -/
theorem Proceeds.completed?_eq_none {caller : Caller} {progress next : Progress}
    (h : s.Proceeds caller progress next) (ha : s.isAbortRequested caller = true) :
    next.completed? = none := by
  cases h with
  | wait _ => rfl
  | answer hno => cases ha.symm.trans hno
  | release => rfl
  | complete hno => cases ha.symm.trans hno
  | discard _ _ => rfl
  | giveUp _ => rfl

theorem proceeds_of_setProgress {own : Caller} {progress : Progress} (next : Progress)
    (hp : s.progressOf own = some progress) (h : s.Proceeds own progress next)
    (hset : ∀ caller, s'.progressOf caller = (s.setProgress own next).progressOf caller)
    (caller : Caller) :
    s'.progressOf caller = s.progressOf caller ∨
      ∃ p q, s.progressOf caller = some p ∧ s'.progressOf caller = some q ∧
        s.Proceeds caller p q := by
  rw [hset]
  by_cases heq : own = caller
  · subst own
    exact .inr ⟨progress, next, hp, progressOf_setProgress_self hp next, h⟩
  · exact .inl (progressOf_setProgress_of_ne heq next)

namespace Move

variable {action : Action}

/-- A move leaves a submission as far as it was, or the submission goes on. -/
theorem proceeds (hmove : Move s action s') (caller : Caller) :
    s'.progressOf caller = s.progressOf caller ∨
      ∃ p q, s.progressOf caller = some p ∧ s'.progressOf caller = some q ∧
        s.Proceeds caller p q := by
  cases hmove with
  | giveUp hp => exact proceeds_of_setProgress _ hp (.giveUp rfl) (fun _ => rfl) caller
  | evaluate input =>
    obtain ⟨goes, kept, hcall⟩ := s.call_cases .direct input
    rw [hcall]
    exact .inl (progressOf_claim ..)
  | release hp => exact proceeds_of_setProgress _ hp .release (fun _ => rfl) caller
  | requestAbort hlt => exact .inl (progressOf_requestAbort _ caller)
  | @finish _ own input hp ha =>
    obtain ⟨kept, hfinish | hfinish⟩ := s.finish_cases own input
    · rw [hfinish]
      refine proceeds_of_setProgress (.completed s.taken) hp (.answer ha)
        (fun other => ?_) caller
      rw [Rehearsal.complete, progressOf_shows, progressOf_setProgress, progressOf_setProgress,
        progressOf_claim]
    · rw [hfinish]
      refine proceeds_of_setProgress (.waiting s.taken) hp (.wait ha)
        (fun other => ?_) caller
      rw [progressOf_setProgress, progressOf_setProgress, progressOf_claim]
  | complete hp ha =>
    exact proceeds_of_setProgress _ hp (.complete ha) (fun other => progressOf_shows _ other) caller
  | discard hp hpending ha =>
    exact proceeds_of_setProgress _ hp (.discard hpending ha) (fun _ => rfl) caller
  | quiet kept runnable => exact .inl (progressOf_quiet ..)

/-- A move asks for the end of no submission, but for that of the task that it is about. -/
theorem isAbortRequested (hmove : Move s action s') (caller : Caller) :
    s'.isAbortRequested caller = s.isAbortRequested caller ∨
      s'.isAbortRequested caller = true ∧
        ∃ number, action = .abort number ∧ caller = .task number := by
  cases hmove with
  | giveUp hp => exact .inl (isAbortRequested_setProgress ..)
  | evaluate input =>
    obtain ⟨goes, kept, hcall⟩ := s.call_cases .direct input
    rw [hcall]
    exact .inl (isAbortRequested_claim ..)
  | release hp => exact .inl (isAbortRequested_setProgress ..)
  | @requestAbort task hlt =>
    rw [isAbortRequested_requestAbort hlt]
    by_cases heq : caller = .task task
    · exact .inr ⟨by simp [heq], task, rfl, heq⟩
    · exact .inl (by simp [heq])
  | @finish _ own input hp ha =>
    obtain ⟨kept, hfinish | hfinish⟩ := s.finish_cases own input
    · rw [hfinish, Rehearsal.complete, isAbortRequested_shows, isAbortRequested_setProgress]
      exact .inl (isAbortRequested_claim ..)
    · rw [hfinish, isAbortRequested_setProgress]
      exact .inl (isAbortRequested_claim ..)
  | complete hp ha =>
    rw [Rehearsal.complete, isAbortRequested_shows, isAbortRequested_setProgress]
    exact .inl rfl
  | discard hp hpending ha => exact .inl (isAbortRequested_setProgress ..)
  | quiet kept runnable => exact .inl (isAbortRequested_quiet ..)

theorem script (hmove : Move s action s') : s'.script = s.script := by
  cases hmove with
  | giveUp hp => exact setProgress_script ..
  | evaluate input =>
    obtain ⟨goes, kept, hcall⟩ := s.call_cases .direct input
    rw [hcall]
    rfl
  | release hp => exact setProgress_script ..
  | requestAbort hlt => rfl
  | @finish _ own input hp ha =>
    obtain ⟨kept, hfinish | hfinish⟩ := s.finish_cases own input
    · rw [hfinish]
      exact setProgress_script ..
    · rw [hfinish]
      exact setProgress_script ..
  | complete hp ha => exact setProgress_script ..
  | discard hp hpending ha => exact setProgress_script ..
  | quiet kept runnable => rfl

/-- A move starts a call only for a caller that has not made its own and that is not to be
aborted, or for a call that nobody shows. -/
theorem calls (hmove : Move s action s') :
    s'.calls = s.calls ∨
      (∃ input, action = .evaluate input ∧ s'.calls = s.calls ++ [⟨.direct, input⟩]) ∨
      ∃ caller input, s.progressOf caller = some (.queued input) ∧
        s.isAbortRequested caller = false ∧ s'.calls = s.calls ++ [⟨caller, input⟩] := by
  cases hmove with
  | giveUp hp => exact .inl (setProgress_calls ..)
  | evaluate input =>
    obtain ⟨goes, kept, hcall⟩ := s.call_cases .direct input
    rw [hcall]
    exact .inr (.inl ⟨input, rfl, rfl⟩)
  | release hp => exact .inl (setProgress_calls ..)
  | requestAbort hlt => exact .inl rfl
  | @finish _ caller input hp ha =>
    refine .inr (.inr ⟨caller, input, hp, ha, ?_⟩)
    obtain ⟨kept, hfinish | hfinish⟩ := s.finish_cases caller input
    · rw [hfinish]
      exact setProgress_calls ..
    · rw [hfinish]
      exact setProgress_calls ..
  | complete hp ha => exact .inl (setProgress_calls ..)
  | discard hp hpending ha => exact .inl (setProgress_calls ..)
  | quiet kept runnable => exact .inl rfl

end Move

/-! ### What an opening makes of the submissions -/

/-- A submission is opened: it is shown to be running, and there is nothing else that is
changed. -/
structure Opened (s : Rehearsal) (caller : Caller) (s' : Rehearsal) : Prop where
  isNew : s.progressOf caller = none
  isQueued : ∃ input, ∀ other, s'.progressOf other =
    if other = caller then some (.queued input) else s.progressOf other
  isAbortRequested : ∀ other, s'.isAbortRequested other = s.isAbortRequested other
  script : s'.script = s.script
  calls : s'.calls = s.calls
  taken : s'.taken = s.taken
  log : s'.log = s.log ++ [.running caller]
  area : s'.area = s.area.setText runningText

theorem opened_trigger (s : Rehearsal) (input : String) :
    Opened s (.task s.tasks.length) (s.trigger input) where
  isNew := by simp [progressOf_task]
  isQueued := ⟨input, progressOf_trigger input⟩
  isAbortRequested := isAbortRequested_trigger input
  script := rfl
  calls := rfl
  taken := rfl
  log := rfl
  area := rfl

theorem opened_present (s : Rehearsal) (input : String) :
    Opened s (.submission s.submissions.length) (s.present input) where
  isNew := by simp [progressOf_submission]
  isQueued := ⟨input, progressOf_present input⟩
  isAbortRequested other := by cases other <;> rfl
  script := rfl
  calls := rfl
  taken := rfl
  log := rfl
  area := rfl

/-- Something done from outside opens a submission or nothing. -/
theorem opening_cases (s : Rehearsal) (action : Action) :
    s.opens action = none ∧ s.opening action = s ∨
      ∃ caller, s.opens action = some caller ∧ Opened s caller (s.opening action) := by
  cases action with
  | trigger input => exact .inr ⟨_, rfl, s.opened_trigger input⟩
  | submit input => exact .inr ⟨_, rfl, s.opened_present input⟩
  | evaluate input => exact .inl ⟨rfl, rfl⟩
  | release gate => exact .inl ⟨rfl, rfl⟩
  | abort task => exact .inl ⟨rfl, rfl⟩
  | rest => exact .inl ⟨rfl, rfl⟩

/-- An opening leaves a submission as far as it was, or the submission is new. -/
theorem progressOf_opening (action : Action) (caller : Caller) :
    (s.opening action).progressOf caller = s.progressOf caller ∨
      s.progressOf caller = none ∧
        ∃ input, (s.opening action).progressOf caller = some (.queued input) := by
  obtain ⟨-, hsame⟩ | ⟨own, -, hopened⟩ := s.opening_cases action
  · rw [hsame]
    exact .inl rfl
  · obtain ⟨input, hprogress⟩ := hopened.isQueued
    rw [hprogress]
    split
    · subst caller
      exact .inr ⟨hopened.isNew, input, rfl⟩
    · exact .inl rfl

theorem isAbortRequested_opening (action : Action) (caller : Caller) :
    (s.opening action).isAbortRequested caller = s.isAbortRequested caller := by
  obtain ⟨-, hsame⟩ | ⟨own, -, hopened⟩ := s.opening_cases action
  · rw [hsame]
  · exact hopened.isAbortRequested caller

theorem opening_script (action : Action) : (s.opening action).script = s.script := by
  obtain ⟨-, hsame⟩ | ⟨own, -, hopened⟩ := s.opening_cases action
  · rw [hsame]
  · exact hopened.script

/-! ### The moves of a step -/

theorem keep_moves (action : Action) (gate : Nat) : Moves action s (s.keep gate) := by
  rw [keep]
  split
  · exact .refl s
  · exact .single (.quiet _ s.runnable)

/-- The task number of a caller is added to those able to run, if it is not there. -/
theorem enqueue_moves (action : Action) (task : Nat) :
    Moves action s
      (if task ∈ s.runnable then s else { s with runnable := s.runnable ++ [task] }) := by
  split
  · exact .refl s
  · exact .single (.quiet s.kept _)

/-- Whether a task has something to do when it is run. -/
def isAble (s : Rehearsal) (task : Nat) : Bool :=
  match s.progressOf (.task task) with
  | some (.queued _) => true
  | some (.released _) => true
  | some (.waiting _) => s.isAbortRequested (.task task)
  | _ => false

/-- What running a task comes to. -/
inductive Ran (s : Rehearsal) (task : Nat) : Rehearsal → Prop where
  /-- There is nothing to do. -/
  | idle (h : s.isAble task = false) : Ran s task s
  | finish {input : String} (h : s.progressOf (.task task) = some (.queued input))
      (ha : s.isAbortRequested (.task task) = false) : Ran s task (s.finish (.task task) input).2
  | complete {number : Nat} (h : s.progressOf (.task task) = some (.released number))
      (ha : s.isAbortRequested (.task task) = false) : Ran s task (s.complete (.task task) number)
  | discard {progress : Progress} (h : s.progressOf (.task task) = some progress)
      (hp : progress.completed? = none) (ha : s.isAbortRequested (.task task) = true) :
      Ran s task (s.setProgress (.task task) .aborted)
  /-- The release that the task has not used goes back. -/
  | giveBack {number : Nat} (h : s.progressOf (.task task) = some (.released number))
      (ha : s.isAbortRequested (.task task) = true) :
      Ran s task ((s.setProgress (.task task) .aborted).keep number)

theorem runTask_ran (s : Rehearsal) (task : Nat) : Ran s task (s.runTask task) := by
  rw [runTask]
  cases htask : s.tasks[task]? with
  | none => exact .idle (by rw [isAble, progressOf_task, htask]; rfl)
  | some t =>
    have hp : s.progressOf (.task task) = some t.progress := by
      rw [progressOf_task, htask]
      rfl
    have ha : s.isAbortRequested (.task task) = t.abortRequested := by
      rw [isAbortRequested, htask]
      rfl
    show Ran s task
      (if t.abortRequested then s.discard task t.progress else s.advance task t.progress)
    split
    · rename_i hr
      rw [hr] at ha
      cases hpr : t.progress <;> rw [hpr] at hp
      case completed => exact .idle (by rw [isAble, hp])
      case released number => exact .giveBack hp ha
      all_goals exact .discard hp rfl ha
    · -- only a task that is queued or released has something to do
      rename_i hr
      rw [Bool.not_eq_true] at hr
      rw [hr] at ha
      cases hpr : t.progress <;> rw [hpr] at hp
      case queued input => exact .finish hp ha
      case released number => exact .complete hp ha
      case waiting number => exact .idle (by rw [isAble, hp]; exact ha)
      all_goals exact .idle (by rw [isAble, hp])

theorem Ran.moves {action : Action} {task : Nat} (h : Ran s task s') : Moves action s s' := by
  cases h with
  | idle => exact .refl s
  | finish hp ha => exact .single (.finish hp ha)
  | complete hp ha => exact .single (.complete hp ha)
  | discard hp hpending ha => exact .single (.discard hp hpending ha)
  | giveBack hp ha => exact (Moves.single (.discard hp rfl ha)).trans (keep_moves ..)

theorem runTask_moves (action : Action) (task : Nat) : Moves action s (s.runTask task) :=
  (s.runTask_ran task).moves

theorem foldl_runTask_moves (action : Action) (numbers : List Nat) :
    Moves action s (numbers.foldl runTask s) := by
  induction numbers generalizing s with
  | nil => exact .refl s
  | cons number rest ih => exact (runTask_moves action number).trans ih

theorem settle_moves (action : Action) : Moves action s s.settle :=
  (Moves.single (.quiet s.kept [])).trans (foldl_runTask_moves action s.runnable)

theorem keep_frame (gate : Nat) : (s.keep gate).submissions = s.submissions ∧
    (s.keep gate).runnable = s.runnable ∧ (s.keep gate).calls = s.calls := by
  rw [keep]
  split <;> exact ⟨rfl, rfl, rfl⟩

/-- Tasks that are run leave the submissions that are waited for alone, and make no task able to
run. -/
theorem Ran.frame {task : Nat} (h : Ran s task s') :
    s'.submissions = s.submissions ∧ s'.runnable = s.runnable := by
  cases h with
  | idle => exact ⟨rfl, rfl⟩
  | @finish input hp ha =>
    obtain ⟨kept, hfinish | hfinish⟩ := s.finish_cases (.task task) input
    all_goals
      rw [hfinish]
      exact ⟨rfl, rfl⟩
  | complete hp ha => exact ⟨rfl, rfl⟩
  | discard hp hpending ha => exact ⟨rfl, rfl⟩
  | @giveBack number hp ha =>
    obtain ⟨hsubmissions, hrunnable, -⟩ :=
      keep_frame (s := s.setProgress (.task task) .aborted) number
    exact ⟨hsubmissions, hrunnable⟩

theorem runTask_submissions (task : Nat) : (s.runTask task).submissions = s.submissions :=
  (s.runTask_ran task).frame.1

theorem runTask_runnable (task : Nat) : (s.runTask task).runnable = s.runnable :=
  (s.runTask_ran task).frame.2

theorem settle_runnable : s.settle.runnable = [] := by
  have hfold (numbers : List Nat) (s : Rehearsal) :
      (numbers.foldl runTask s).runnable = s.runnable := by
    induction numbers generalizing s with
    | nil => rfl
    | cons number rest ih => exact (ih _).trans (runTask_runnable number)
  exact hfold s.runnable _

/-- When no task is able to run, none is run. -/
theorem settle_of_runnable_eq_nil (idle : s.runnable = []) : s.settle = s := by
  rw [settle, idle, List.foldl_nil]
  cases s
  cases idle
  rfl

theorem progressOf_settle_submission (number : Nat) :
    s.settle.progressOf (.submission number) = s.progressOf (.submission number) := by
  have hfold (numbers : List Nat) (s : Rehearsal) :
      (numbers.foldl runTask s).submissions = s.submissions := by
    induction numbers generalizing s with
    | nil => rfl
    | cons number rest ih => exact (ih _).trans (runTask_submissions number)
  rw [progressOf_submission, settle, hfold s.runnable, progressOf_submission]

theorem progressOf_present_self (input : String) :
    (s.present input).progressOf (.submission s.submissions.length) = some (.queued input) := by
  rw [progressOf_present, if_pos rfl]

/-- A submission that is waited for ends with the outcome of its call, or is given up after
the tasks have been run. -/
theorem submit_cases (s : Rehearsal) (input : String) :
    let caller := Caller.submission s.submissions.length
    let finished := (s.present input).finish caller input
    s.submit input = (true, finished.2) ∧
        finished.2.progressOf caller = some (.completed s.taken) ∨
      s.submit input = (false, finished.2.settle.setProgress caller .aborted) ∧
        finished.2.settle.progressOf caller = some (.waiting s.taken) := by
  intro caller finished
  have hp : finished.2.progressOf caller =
      some (if finished.1 then .completed s.taken else .waiting s.taken) :=
    progressOf_finish (progressOf_present_self input)
  have hsubmit : s.submit input = if finished.1 then finished
      else (false, finished.2.settle.setProgress caller .aborted) := rfl
  -- whether it waits is settled before the tasks run, and they do not change it
  cases hgoes : finished.1 with
  | true =>
    rw [hgoes] at hp
    rw [hsubmit, if_pos hgoes]
    exact .inl ⟨Prod.ext hgoes rfl, hp⟩
  | false =>
    rw [hgoes] at hp
    rw [hsubmit, if_neg (by simp [hgoes]), progressOf_settle_submission]
    exact .inr ⟨rfl, hp⟩

theorem submit_moves (input : String) :
    Moves (.submit input) (s.present input) (s.submit input).2 := by
  have hfinish : Moves (.submit input) (s.present input)
      ((s.present input).finish (.submission s.submissions.length) input).2 :=
    .single (.finish (progressOf_present_self input) rfl)
  rcases s.submit_cases input with ⟨hsubmit, -⟩ | ⟨hsubmit, hwaiting⟩
  · rw [hsubmit]
    exact hfinish
  · rw [hsubmit]
    exact (hfinish.trans (settle_moves _)).tail (.giveUp hwaiting)

theorem evaluate_moves (input : String) : Moves (.evaluate input) s (s.evaluate input).2 := by
  have hcall : Moves (.evaluate input) s (s.call .direct input).2 := .single (.evaluate input)
  rw [evaluate]
  split
  · exact hcall
  · exact hcall.trans (settle_moves _)

/-- The task that is found at a gate waits there. -/
theorem progressOf_of_waitingAt? {gate task : Nat} (h : s.waitingAt? gate = some task) :
    s.progressOf (.task task) = some (.waiting gate) := by
  obtain ⟨hlt, hwaits, -⟩ := List.findIdx?_eq_some_iff_getElem.mp h
  rw [progressOf_task, List.getElem?_eq_getElem hlt]
  exact congrArg some (beq_iff_eq.mp hwaits)

theorem release_moves (gate : Nat) : Moves (.release gate) s (s.release gate).2 := by
  rw [release]
  split
  -- the gate is there: a task that waits goes on, or the release is kept
  · cases hw : s.waitingAt? gate with
    | none => exact keep_moves ..
    | some task =>
      exact (Moves.single (.release (progressOf_of_waitingAt? hw))).trans (enqueue_moves _ task)
  · exact .refl s

theorem abort_moves (task : Nat) : Moves (.abort task) s (s.abort task).2 := by
  rw [abort]
  cases htask : s.tasks[task]? with
  | none => exact .refl s
  | some t =>
    dsimp only
    split
    · exact .refl s
    · have hlt : task < s.tasks.length := (List.getElem?_eq_some_iff.mp htask).1
      exact (Moves.single (.requestAbort hlt)).trans (enqueue_moves _ task)

/-- What is done from outside opens a submission, and then it is a sequence of moves. -/
theorem act_moves (action : Action) : Moves action (s.opening action) (s.act action).2 := by
  cases action with
  | trigger input => exact .refl _
  | submit input => exact submit_moves input
  | evaluate input => exact evaluate_moves input
  | release gate => exact release_moves gate
  | abort task => exact abort_moves task
  | rest => exact .refl _

theorem step_snd (step : Step) : (s.step step).2 =
    if step.settles then (s.act step.action).2.settle else (s.act step.action).2 := rfl

/-- A step opens a submission, and then it is a sequence of moves. -/
theorem step_moves (step : Step) :
    Moves step.action (s.opening step.action) (s.step step).2 := by
  have hact := act_moves (s := s) step.action
  rw [step_snd]
  split
  · exact hact.trans (settle_moves _)
  · exact hact

/-! ### Runs -/

@[simp]
theorem run_cons (step : Step) (steps : List Step) :
    s.run (step :: steps) = (s.step step).2.run steps := rfl

theorem run_concat (steps : List Step) (step : Step) :
    s.run (steps ++ [step]) = ((s.run steps).step step).2 := by
  rw [run, List.foldl_append]
  rfl

section Induction

variable {P : Rehearsal → Prop}

/-- What openings and moves preserve holds after a run. -/
theorem run_induction {steps : List Step}
    (opening : ∀ s, ∀ step ∈ steps, P s → P (s.opening step.action))
    (move : ∀ s s', ∀ step ∈ steps, P s → Move s step.action s' → P s') (h : P s) :
    P (s.run steps) := by
  induction steps generalizing s with
  | nil => exact h
  | cons step rest ih =>
    -- the step first, by induction on its moves, and then the rest of the run
    refine ih (fun s other hmem => opening s other (List.mem_cons_of_mem step hmem))
      (fun s s' other hmem => move s s' other (List.mem_cons_of_mem step hmem)) ?_
    exact (step_moves step).induction (fun s s' => move s s' step List.mem_cons_self)
      (opening s step List.mem_cons_self h)

/-- What openings and moves preserve holds after a step and a run if it holds after what the
step does from outside. -/
theorem run_cons_induction {action : Action}
    (opening : ∀ s action, P s → P (s.opening action))
    (move : ∀ s s' action, P s → Move s action s' → P s') (h : P (s.act action).2)
    (settles : Bool) (steps : List Step) : P (s.run (⟨action, settles⟩ :: steps)) := by
  rw [run_cons]
  refine run_induction (fun s step _ => opening s step.action)
    (fun s s' step _ => move s s' step.action) ?_
  rw [step_snd]
  cases settles with
  | true => exact (settle_moves .rest).induction (fun s s' => move s s' .rest) h
  | false => exact h

end Induction

/-- A run goes on with the same script. -/
theorem run_script (s : Rehearsal) (steps : List Step) : (s.run steps).script = s.script :=
  run_induction (P := fun s' => s'.script = s.script)
    (fun _ step _ h => (opening_script step.action).trans h)
    (fun _ _ _ _ h hmove => hmove.script.trans h) rfl

end EvalConsole.Rehearsal
