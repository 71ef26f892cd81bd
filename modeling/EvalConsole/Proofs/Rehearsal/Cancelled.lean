/-
Tasks that are aborted before they have been run.

Such a task makes no call, and it is as if it had ended at once: the run goes on like one from
the state in which the task has ended and is not among those able to run.

* `Rehearsal.Cancelled`: the end of a task has been asked for before it made its call.
* `Rehearsal.run_abort_of_queued`: a run that starts with such an abort is one without the task.

Design notes
------------
A cancelled task makes no further call, and it is set aside as such a task is. It never had one,
so nothing else is set aside with it.
-/
import EvalConsole.Proofs.Rehearsal.Aside

namespace EvalConsole.Rehearsal

variable {s s' : Rehearsal} {task : ℕ}

/-- The end of a task has been asked for before it made its call. -/
structure Cancelled (s : Rehearsal) (task : ℕ) : Prop where
  asked : s.isAbortRequested (.task task) = true
  uncalled : ∃ progress, s.progressOf (.task task) = some progress ∧ progress.call? = none
  silent : ∀ call ∈ s.calls, call.caller ≠ .task task

namespace Cancelled

theorem move {action : Action} (h : Cancelled s task) (hmove : Move s action s') :
    Cancelled s' task := by
  obtain ⟨progress, hp, uncalled⟩ := h.uncalled
  constructor
  · rcases hmove.isAbortRequested (.task task) with same | ⟨now, -⟩
    · exact same.trans h.asked
    · exact now
  · rcases hmove.proceeds (.task task) with same | ⟨p, q, hq, next, goes⟩
    · exact ⟨progress, same.trans hp, uncalled⟩
    · obtain rfl := Option.some.inj (hq.symm.trans hp)
      -- it cannot make its call any more, so all that is left is its end
      cases goes with
      | wait unasked => cases h.asked.symm.trans unasked
      | answer unasked => cases h.asked.symm.trans unasked
      | release => cases uncalled
      | complete unasked => cases uncalled
      | discard pending asked => exact ⟨.aborted, next, rfl⟩
      | giveUp submission => cases submission
  · rcases hmove.calls with same | ⟨input, -, made⟩ | ⟨caller, input, -, unasked, made⟩
    · rw [same]
      exact h.silent
    · intro call hmem
      rw [made] at hmem
      rcases List.mem_append.mp hmem with before | now
      · exact h.silent call before
      · rw [List.mem_singleton.mp now]
        nofun
    · intro call hmem
      rw [made] at hmem
      rcases List.mem_append.mp hmem with before | now
      · exact h.silent call before
      · rw [List.mem_singleton.mp now]
        rintro rfl
        cases h.asked.symm.trans unasked

theorem moves {action : Action} (h : Cancelled s task) (hmoves : Moves action s s') :
    Cancelled s' task :=
  hmoves.induction (fun _ _ (hs : Cancelled _ task) hmove => hs.move hmove) h

theorem opening (h : Cancelled s task) (action : Action) : Cancelled (s.opening action) task := by
  obtain ⟨progress, hp, uncalled⟩ := h.uncalled
  obtain ⟨-, same⟩ | ⟨caller, -, opened⟩ := s.opening_cases action
  · rw [same]
    exact h
  · constructor
    · exact (opened.isAbortRequested _).trans h.asked
    · refine ⟨progress, ?_, uncalled⟩
      obtain ⟨input, progressOf⟩ := opened.isQueued
      -- the submission that is new is another one
      rw [progressOf, if_neg, hp]
      rintro rfl
      cases hp.symm.trans opened.isNew
    · rw [opened.calls]
      exact h.silent

theorem spent (h : Cancelled s task) (claimed : Claimed s) : Spent s task none := by
  obtain ⟨progress, hp, uncalled⟩ := h.uncalled
  refine ⟨claimed, ⟨progress, hp, fun _ _ => h.asked, fun call made => ?_⟩, nofun⟩
  cases uncalled.symm.trans made

end Cancelled

/-- A task that is aborted before it has been run is cancelled. -/
theorem cancelled_abort (h : Claimed s) {input : String}
    (queued : s.progressOf (.task task) = some (.queued input)) :
    Cancelled (s.abort task).2 task := by
  obtain ⟨⟨_, requested⟩, there, rfl⟩ := Option.map_eq_some_iff.mp queued
  have bound : task < s.tasks.length := (List.getElem?_eq_some_iff.mp there).1
  have asked : Cancelled (s.requestAbort task) task := by
    constructor
    · rw [isAbortRequested_requestAbort bound, decide_eq_true rfl, Bool.true_or]
    · exact ⟨.queued input, (progressOf_requestAbort ..).trans queued, rfl⟩
    · intro call hmem same
      rcases h.made call hmem with direct | ⟨progress, hp, made⟩
      · cases same.symm.trans direct
      · rw [same, queued] at hp
        exact made input (Option.some.inj hp).symm
  rw [abort, there]
  exact asked.moves (enqueue_moves .rest task)

/-- When a task is aborted before it has been run, the run goes on as without it. -/
theorem run_abort_of_queued (h : Claimed s) {input : String}
    (queued : s.progressOf (.task task) = some (.queued input)) (settles : Bool)
    (more : List Step) :
    Cancelled (s.run (⟨.abort task, settles⟩ :: more)) task ∧
      (s.run (⟨.abort task, settles⟩ :: more)).without task =
        (s.without task).run (⟨.rest, settles⟩ :: more) := by
  have cancelled : Cancelled (s.act (.abort task)).2 task := cancelled_abort h queued
  have spent : Spent (s.act (.abort task)).2 task none :=
    cancelled.spent (act_moves (.abort task) |>.induction
      (fun _ _ (hs : Claimed _) hmove => hs.move hmove) h)
  -- the step leaves a state that differs in the task only, whether the tasks are run or not
  have stepped : (s.step ⟨.abort task, settles⟩).2.without task =
      ((s.without task).step ⟨.rest, settles⟩).2 := by
    have apart : (s.abort task).2.aside task none = s.aside task none := aside_abort_self
    rw [step_snd, step_snd]
    cases settles with
    | true => exact spent.settle_aside.trans (congrArg settle apart)
    | false => exact apart
  constructor
  · exact run_cons_induction (P := fun s => Cancelled s task)
      (fun _ action hs => hs.opening action) (fun _ _ _ hs hmove => hs.move hmove) cancelled
      settles more
  · have after : Spent (s.step ⟨.abort task, settles⟩).2 task none := by
      rw [step_snd]
      cases settles with
      | true => exact spent.moves (settle_moves .rest)
      | false => exact spent
    rw [run_cons, run_cons, ← stepped]
    exact after.run_aside more

end EvalConsole.Rehearsal
