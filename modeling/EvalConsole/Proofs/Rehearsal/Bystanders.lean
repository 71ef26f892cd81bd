/-
Aborting one submission disturbs no other.

A task that waits at its gate has made its call, and it makes no other. What it still has is its
outcome and its gate. When it is aborted the outcome is not shown, and a release of the gate
stays there, because no other call ever arrives at it. So the run with the abort and the run
that is spared it go on in the same way for everybody else, whatever is done in them.

* `Rehearsal.Accounted.outcomes`: a task shows one outcome at most, that of its call.
* `Rehearsal.aside_abort`: with the task set aside, the abort changes nothing.
* `Rehearsal.abort_disturbs_no_other`: what the two runs have in common.

Design notes
------------
The two runs are not compared with each other: both are, with the task set aside, the run of one
and the same state. What is set aside of the texts shown is recovered from the account of the task.
-/
import EvalConsole.Proofs.Rehearsal.Aside
import EvalConsole.Proofs.Rehearsal.Writes

namespace EvalConsole.Rehearsal

variable {s s' : Rehearsal} {task : ℕ} {gate? : Option ℕ}

/-! ### The outcomes that a task shows -/

/-- A task shows the outcome of its call if it completes, and else none. -/
theorem Accounted.outcomes (h : Accounted s) (task : ℕ) :
    s.log.filter (·.isOutcomeOf task) =
      (((s.progressOf (.task task)).bind Progress.completed?).map fun call =>
        Shown.ended (.task task) (s.outcomeOf call)).toList := by
  -- they are among its texts
  have own : s.log.filter (·.isOutcomeOf task) =
      (s.share (.task task)).filter (·.isOutcomeOf task) := by
    rw [← h.log, List.filter_filter]
    refine List.filter_congr fun shown _ => ?_
    cases shown <;> simp [Shown.isOutcomeOf, Shown.caller]
  rw [own, share]
  cases s.progressOf (.task task) with
  | none => rfl
  | some progress =>
    cases progress with
    | completed call => simp [Progress.completed?, Shown.isOutcomeOf]
    | queued input => rfl
    | waiting call => rfl
    | released call => rfl
    | aborted => rfl

theorem Spent.outcomes {gate : ℕ} (h : Spent s task (some gate)) (accounted : Accounted s) :
    s.log.filter (·.isOutcomeOf task) = [] ∨
      s.log.filter (·.isOutcomeOf task) = [.ended (.task task) (s.outcomeOf gate)] := by
  obtain ⟨progress, hp, -, own⟩ := h.progress
  rw [accounted.outcomes, hp]
  cases progress with
  | completed call =>
    obtain rfl := Option.some.inj (own call rfl)
    exact .inr rfl
  | queued input => exact .inl rfl
  | waiting call => exact .inl rfl
  | released call => exact .inl rfl
  | aborted => exact .inl rfl

theorem Doomed.outcomes (h : Doomed s (.task task)) (accounted : Accounted s) :
    s.log.filter (·.isOutcomeOf task) = [] := by
  obtain ⟨-, progress, hp, pending⟩ := h
  rw [accounted.outcomes, hp, Option.bind_some, pending]
  rfl

/-! ### An abort, set aside -/

theorem Claimed.spent (h : Claimed s) {gate : ℕ}
    (waits : s.progressOf (.task task) = some (.waiting gate)) : Spent s task (some gate) := by
  refine ⟨h, ⟨_, waits, nofun, fun call own => own⟩, fun call same => ?_⟩
  cases same
  exact h.lt_taken waits rfl

/-- When all tasks have been run, the abort of a task that makes no further call is of no concern to
the others. -/
theorem aside_abort (h : Spent s task gate?) (idle : s.runnable = []) (settles : Bool) :
    (s.step ⟨.abort task, settles⟩).2.aside task gate? = s.aside task gate? := by
  have asked : Spent (s.abort task).2 task gate? := h.moves (abort_moves task)
  have act : (s.act (.abort task)).2 = (s.abort task).2 := rfl
  rw [step_snd, act]
  split
  · have idle_aside : (s.aside task gate?).runnable = [] := by
      rw [aside_runnable, idle, List.filter_nil]
    rw [asked.settle_aside, aside_abort_self, settle_of_runnable_eq_nil idle_aside]
  · exact aside_abort_self

/-! ### What is left of two runs -/

theorem finished_of_aside_eq (same : s.aside task gate? = s'.aside task gate?) {other : ℕ}
    (ne : other ≠ task) : s.finished[other]? = s'.finished[other]? := by
  have tasks := congrArg (fun left : Rehearsal => left.tasks[other]?) same
  rw [aside_tasks_of_ne ne, aside_tasks_of_ne ne] at tasks
  rw [finished, finished, List.getElem?_map, List.getElem?_map, tasks]

theorem log_of_aside_eq {gate : ℕ} (same : s.aside task (some gate) = s'.aside task (some gate)) :
    s.log.filter (fun shown => !shown.isOutcomeOf task) =
      s'.log.filter fun shown => !shown.isOutcomeOf task :=
  congrArg log same

theorem filter_not_of_filter_eq_nil {α : Type} {p : α → Bool} {l : List α} (h : l.filter p = []) :
    l.filter (fun a => !p a) = l := by
  rw [List.filter_eq_self]
  intro a ha
  simpa using List.filter_eq_nil_iff.mp h a ha

/-- Aborting one submission disturbs no other. When all tasks have been run after any steps and a
task waits at its gate, it is aborted there or it is not, and then there are any further steps. In
both cases the calls have seen the same, all other tasks have ended or have not, and every step
reports the same, the outcome of a call that nobody shows included. What is shown differs at most in
the outcome of the task, which is not shown when it is aborted. -/
theorem abort_disturbs_no_other (script : List ScriptElement) (steps : List Step)
    (settled : ((start script).run steps).runnable = []) {task gate : ℕ}
    (waits : ((start script).run steps).progressOf (.task task) = some (.waiting gate))
    (settles : Bool) (more : List Step) :
    let s := (start script).run steps
    let aborted := s.run (⟨.abort task, settles⟩ :: more)
    let spared := s.run more
    aborted.seen = spared.seen ∧
    (∀ other, other ≠ task → aborted.finished[other]? = spared.finished[other]?) ∧
    (∀ step, (aborted.step step).1 = (spared.step step).1) ∧
    (∀ outcome, .ended (.task task) outcome ∉ aborted.log) ∧
    (aborted.log = spared.log ∨
      ∃ before after, aborted.log = before ++ after ∧
        spared.log = before ++ .ended (.task task) (s.outcomeOf gate) :: after) := by
  intro s aborted spared
  have claimed : Claimed s := (Claimed.start script).run steps
  have accounted : Accounted s := (Accounted.start script).run steps
  have spent : Spent s task (some gate) := claimed.spent waits
  have spent_aborted : Spent aborted task (some gate) := spent.run _
  have spent_spared : Spent spared task (some gate) := spent.run more
  -- with the task set aside, both runs are that of the state before the abort
  have same : aborted.aside task (some gate) = spared.aside task (some gate) := by
    have after : Spent (s.step ⟨.abort task, settles⟩).2 task (some gate) := spent.step _
    show ((s.step ⟨.abort task, settles⟩).2.run more).aside task (some gate) = _
    rw [after.run_aside more, aside_abort spent settled settles, spent.run_aside more]
  have silent : aborted.log.filter (·.isOutcomeOf task) = [] := by
    have pending : s.finished[task]? = some false := by
      obtain ⟨t, there, hp⟩ := Option.map_eq_some_iff.mp waits
      rw [finished, List.getElem?_map, there, Option.map_some, hp]
      rfl
    exact ((Doomed.abort pending).run settles more).outcomes (accounted.run _)
  have log : aborted.log = spared.log.filter fun shown => !shown.isOutcomeOf task := by
    rw [← log_of_aside_eq same, filter_not_of_filter_eq_nil silent]
  refine ⟨?_, fun other ne => finished_of_aside_eq same ne, fun step => ?_, fun outcome shown => ?_,
    ?_⟩
  · have calls := congrArg calls same
    rw [aside_calls, aside_calls] at calls
    rw [seen, seen, calls]
  · have reports := congrArg (fun left : Rehearsal => (left.step step).1) same
    rwa [spent_aborted.step_aside, spent_spared.step_aside] at reports
  · have there := List.filter_eq_nil_iff.mp silent _ shown
    simp [Shown.isOutcomeOf] at there
  · rcases spent_spared.outcomes (accounted.run more) with none | one
    · exact .inl (log.trans (filter_not_of_filter_eq_nil none))
    · obtain ⟨before, after, split, earlier, own, later⟩ := List.filter_eq_cons_iff.mp one
      refine .inr ⟨before, after, ?_, ?_⟩
      · have first : before.filter (fun shown => !shown.isOutcomeOf task) = before :=
          List.filter_eq_self.mpr fun shown there => by simpa using earlier shown there
        rw [log, split, List.filter_append, first, List.filter_cons_of_neg (by simpa using own),
          filter_not_of_filter_eq_nil later]
      · rw [split]
        exact congrArg (before ++ .ended (.task task) · :: after) (outcomeOf_run more gate)

/-- The first of two tasks is aborted, and its gate is released before it has been run and once more
behind a third submission. Only in the other run its outcome is shown. -/
theorem abort_disturbs_no_other_released :
    let s := (start [⟨.ok (.result "1"), true⟩, ⟨.ok (.result "2"), true⟩,
      ⟨.ok (.result "3"), false⟩]).run [⟨.trigger "a", false⟩, ⟨.trigger "b", true⟩]
    let more : List Step := [⟨.release 0, false⟩, ⟨.trigger "c", true⟩, ⟨.abort 0, false⟩,
      ⟨.release 0, true⟩]
    let aborted := s.run (⟨.abort 0, false⟩ :: more)
    let spared := s.run more
    spared.texts = [runningText, runningText, runningText, "Result: 1", "Result: 3"] ∧
      aborted.seen = spared.seen ∧
      (∀ other, other ≠ 0 → aborted.finished[other]? = spared.finished[other]?) ∧
      (aborted.step ⟨.evaluate "d", true⟩).1 = (spared.step ⟨.evaluate "d", true⟩).1 ∧
      .ended (.task 0) (.ok (.result "1")) ∉ aborted.log ∧
      ∃ before after, aborted.log = before ++ after ∧
        spared.log = before ++ .ended (.task 0) (.ok (.result "1")) :: after := by
  intro s more aborted spared
  have settled : s.runnable = [] := by decide +kernel
  have waits : s.progressOf (.task 0) = some (.waiting 0) := by decide +kernel
  have differ : aborted.texts ≠ spared.texts := by decide +kernel
  obtain ⟨seen, others, reports, absent, logs⟩ :=
    abort_disturbs_no_other _ _ settled waits false more
  refine ⟨by decide +kernel, seen, others, reports _, absent _, logs.resolve_left fun same => ?_⟩
  exact differ (congrArg (List.map Shown.text) same)

end EvalConsole.Rehearsal
