/-
Tasks that are of no concern to the others any more.

A task that makes no further call takes no script element and no release from anybody. What is
still open is how far it is, whether its gate keeps a release that nobody else can use, and
whether its outcome is shown. With these things set aside, a run goes on in the same way whatever
becomes of the task.

* `Rehearsal.without` is the state in which a task is not there to be run.
* `Rehearsal.mute` is the state in which its gate keeps a release and it has shown no outcome.
* `Rehearsal.Spent`: a task makes no further call.
* `Rehearsal.Spent.step_aside` and `Rehearsal.Spent.run_aside`: setting such a task aside commutes with every
  step, and so with a run; reports are the same.

Design notes
------------
A task whose end is asked for before it has been run never makes a call, has no gate and shows
no outcome; then there is only the task itself to set aside. The call of a task is therefore
optional in all that follows, and without one `Rehearsal.mute` changes nothing.

The release that is put in is the last one kept, so that the order of the others stays as it is
and both sides of every equation are the same state. The lemmas follow the definitions of the
operations, one for each, and the run is an induction over the steps.
-/
import EvalConsole.Proofs.Rehearsal.Calls

namespace EvalConsole.Rehearsal

variable {s s' : Rehearsal} {action : Action} {task other : ℕ} {gate? : Option ℕ}

/-! ### Setting a task aside -/

/-- The state in which a task has ended and is not among those able to run. -/
def without (s : Rehearsal) (task : ℕ) : Rehearsal :=
  { s with
    tasks := s.tasks.modify task fun _ => ⟨.aborted, true⟩
    runnable := s.runnable.filter (· != task) }

/-- Whether a text is the outcome of a task. -/
def Shown.isOutcomeOf (task : ℕ) : Shown → Bool
  | running _ => false
  | ended caller _ => caller == .task task

/-- The state in which the gate of the call of a task keeps a release, and the task has shown no
outcome. -/
def mute (s : Rehearsal) (task : ℕ) : Option ℕ → Rehearsal
  | none => s
  | some gate =>
    let log := s.log.filter fun shown => !shown.isOutcomeOf task
    { s with
      kept := s.kept.filter (· != gate) ++ [gate]
      log
      area := ⟨(log.map Shown.text).getLast?.getD ""⟩ }

/-- The state without a task and without what its call can still come to. -/
def aside (s : Rehearsal) (task : ℕ) (gate? : Option ℕ) : Rehearsal :=
  (s.without task).mute task gate?

/-! ### Lists -/

theorem modify_concat {α : Type} (f : α → α) (a : α) {l : List α} {i : ℕ} (h : i < l.length) :
    (l ++ [a]).modify i f = l.modify i f ++ [a] := by
  induction l generalizing i with
  | nil => cases h
  | cons b l ih =>
    cases i with
    | zero => rfl
    | succ i =>
      have rest : (l ++ [a]).modify i f = l.modify i f ++ [a] := ih (Nat.lt_of_succ_lt_succ h)
      simp [rest]

/-! ### What is left of a state -/

section Frames

variable (s task gate?)

@[simp]
theorem aside_script : (s.aside task gate?).script = s.script := by
  cases gate? <;> rfl

@[simp]
theorem aside_calls : (s.aside task gate?).calls = s.calls := by
  cases gate? <;> rfl

@[simp]
theorem aside_taken : (s.aside task gate?).taken = s.taken := by
  cases gate? <;> rfl

@[simp]
theorem aside_submissions : (s.aside task gate?).submissions = s.submissions := by
  cases gate? <;> rfl

@[simp]
theorem aside_tasks :
    (s.aside task gate?).tasks = s.tasks.modify task fun _ => ⟨.aborted, true⟩ := by
  cases gate? <;> rfl

@[simp]
theorem aside_runnable : (s.aside task gate?).runnable = s.runnable.filter (· != task) := by
  cases gate? <;> rfl

@[simp]
theorem aside_hasGate (call : ℕ) : (s.aside task gate?).hasGate call = s.hasGate call := by
  rw [hasGate, hasGate, aside_script]

@[simp]
theorem aside_outcomeOf (call : ℕ) : (s.aside task gate?).outcomeOf call = s.outcomeOf call := by
  rw [outcomeOf, outcomeOf, aside_script]

end Frames

theorem aside_tasks_of_ne (h : other ≠ task) :
    (s.aside task gate?).tasks[other]? = s.tasks[other]? := by
  simp [h.symm]

theorem mem_aside_runnable (h : other ≠ task) :
    other ∈ (s.aside task gate?).runnable ↔ other ∈ s.runnable := by
  simp [h]

/-! ### Submissions -/

theorem aside_setProgress {caller : Caller} (h : caller ≠ .task task) (progress : Progress) :
    (s.setProgress caller progress).aside task gate? =
      (s.aside task gate?).setProgress caller progress := by
  have apart : (s.setProgress caller progress).without task =
      (s.without task).setProgress caller progress := by
    cases caller with
    | task number =>
      have ne : number ≠ task := fun same => h (same ▸ rfl)
      simp only [without, setProgress]
      rw [List.modify_modify_ne _ _ _ ne]
    | submission number => rfl
    | direct => rfl
  rw [aside, apart]
  cases gate? <;> cases caller <;> rfl

theorem aside_setProgress_self (progress : Progress) :
    (s.setProgress (.task task) progress).aside task gate? = s.aside task gate? := by
  have apart : (s.setProgress (.task task) progress).without task = s.without task := by
    simp only [without, setProgress]
    rw [List.modify_modify_eq]
    rfl
  rw [aside, apart, aside]

theorem aside_requestAbort (h : other ≠ task) :
    (s.requestAbort other).aside task gate? = (s.aside task gate?).requestAbort other := by
  have apart : (s.requestAbort other).without task = (s.without task).requestAbort other := by
    simp only [without, requestAbort]
    rw [List.modify_modify_ne _ _ _ h]
  rw [aside, apart]
  cases gate? <;> rfl

theorem aside_requestAbort_self :
    (s.requestAbort task).aside task gate? = s.aside task gate? := by
  have apart : (s.requestAbort task).without task = s.without task := by
    simp only [without, requestAbort]
    rw [List.modify_modify_eq]
    rfl
  rw [aside, apart, aside]

/-- A release is kept at a gate; at that of the task it is kept already. -/
theorem aside_keep (gate : ℕ) :
    (s.keep gate).aside task gate? = (s.aside task gate?).keep gate := by
  cases gate? with
  | none =>
    have same : (s.aside task none).kept = s.kept := rfl
    rw [keep, keep, same]
    split <;> rfl
  | some own =>
    have kept : (s.aside task (some own)).kept = s.kept.filter (· != own) ++ [own] := rfl
    rw [keep, keep, kept]
    by_cases same : gate = own
    · subst own
      rw [if_pos (List.mem_append_right _ List.mem_cons_self)]
      split
      · rfl
      · simp [aside, without, mute]
    · by_cases there : gate ∈ s.kept
      · rw [if_pos there, if_pos (by simp [there, same])]
      · rw [if_neg there, if_neg (by simp [there, same])]
        simp [aside, without, mute, same]

theorem keep_aside_self (gate : ℕ) :
    (s.aside task (some gate)).keep gate = s.aside task (some gate) :=
  if_pos (List.mem_append_right _ List.mem_cons_self)

theorem aside_shows {shown : Shown} (h : shown.isOutcomeOf task = false) :
    (s.shows shown).aside task gate? = (s.aside task gate?).shows shown := by
  cases gate? with
  | none => rfl
  | some gate => simp [aside, without, mute, shows, h, TextArea.setText]

/-- The outcome of the task is not shown. -/
theorem aside_shows_self {shown : Shown} (h : shown.isOutcomeOf task = true) (gate : ℕ) :
    (s.shows shown).aside task (some gate) = s.aside task (some gate) := by
  simp [aside, without, mute, shows, h]

theorem aside_complete {caller : Caller} (h : caller ≠ .task task) (number : ℕ) :
    (s.complete caller number).aside task gate? =
      (s.aside task gate?).complete caller number := by
  have foreign : (Shown.ended caller (s.outcomeOf number)).isOutcomeOf task = false := by
    simpa [Shown.isOutcomeOf] using h
  rw [complete, complete, aside_shows foreign, aside_setProgress h, aside_outcomeOf]

theorem aside_trigger (h : task < s.tasks.length) (input : String) :
    (s.trigger input).aside task gate? = (s.aside task gate?).trigger input := by
  have ne : s.tasks.length ≠ task := Nat.ne_of_gt h
  have shown : (s.shows (.running (.task s.tasks.length))).aside task gate? =
      (s.aside task gate?).shows (.running (.task s.tasks.length)) := aside_shows rfl
  have opened : (s.trigger input).aside task gate? =
      { (s.shows (.running (.task s.tasks.length))).aside task gate? with
        tasks := (s.tasks ++ [Task.mk (.queued input) false]).modify task fun _ => ⟨.aborted, true⟩
        runnable := (s.runnable ++ [s.tasks.length]).filter (· != task) } := by
    cases gate? <;> rfl
  rw [opened, shown, trigger, modify_concat _ _ h]
  simp [ne]

theorem aside_present (input : String) :
    (s.present input).aside task gate? = (s.aside task gate?).present input := by
  have shown : (s.shows (.running (.submission s.submissions.length))).aside task gate? =
      (s.aside task gate?).shows (.running (.submission s.submissions.length)) := aside_shows rfl
  have opened : (s.present input).aside task gate? =
      { (s.shows (.running (.submission s.submissions.length))).aside task gate? with
        submissions := s.submissions ++ [.queued input] } := by
    cases gate? <;> rfl
  rw [opened, shown, present, aside_submissions]

/-! ### Calls -/

/-- The gate of the task is not that of a call that is still to come. -/
theorem call_aside (later : ∀ gate, gate? = some gate → gate < s.taken) (caller : Caller)
    (input : String) : (s.aside task gate?).call caller input =
      ((s.call caller input).1, (s.call caller input).2.aside task gate?) := by
  have started : (s.aside task gate?).startCall caller input =
      (s.startCall caller input).aside task gate? := by
    cases gate? <;> rfl
  rw [call, call, started, aside_taken, arrive, arrive, aside_hasGate]
  split
  · cases gate? with
    | none =>
      have same : ((s.startCall caller input).aside task none).kept =
        (s.startCall caller input).kept := rfl
      rw [same]
      split <;> rfl
    | some gate =>
      have ne : s.taken ≠ gate := Nat.ne_of_gt (later gate rfl)
      have kept : ((s.startCall caller input).aside task (some gate)).kept =
        (s.startCall caller input).kept.filter (· != gate) ++ [gate] := rfl
      rw [kept]
      by_cases there : s.taken ∈ (s.startCall caller input).kept
      · rw [if_pos there, if_pos (by simp [there, ne])]
        refine Prod.ext rfl ?_
        simp [aside, without, mute, List.filter_filter, Bool.and_comm, ne.symm]
      · rw [if_neg there, if_neg (by simp [there, ne])]
  · rfl

theorem finish_aside (later : ∀ gate, gate? = some gate → gate < s.taken) {caller : Caller}
    (h : caller ≠ .task task) (input : String) : (s.aside task gate?).finish caller input =
      ((s.finish caller input).1, (s.finish caller input).2.aside task gate?) := by
  rw [finish, finish, call_aside later, aside_taken]
  dsimp only
  split
  · rw [aside_complete h]
  · rw [aside_setProgress h]

/-! ### Tasks that make no further call -/

/-- A task makes no further call: it has made the one with this number, or its end has been asked
for before it made one. -/
structure Spent (s : Rehearsal) (task : ℕ) (gate? : Option ℕ) : Prop where
  claimed : Claimed s
  progress : ∃ progress, s.progressOf (.task task) = some progress ∧
    (∀ input, progress = .queued input → s.isAbortRequested (.task task) = true) ∧
    ∀ call, progress.call? = some call → gate? = some call
  /-- The call has started, so nobody else arrives at its gate. -/
  later : ∀ gate, gate? = some gate → gate < s.taken

namespace Spent

theorem move (h : Spent s task gate?) (hmove : Move s action s') : Spent s' task gate? := by
  obtain ⟨progress, hp, queued, own⟩ := h.progress
  refine ⟨h.claimed.move hmove, ?_, fun gate same => ?_⟩
  · rcases hmove.proceeds (.task task) with same | ⟨p, q, hq, next, goes⟩
    · refine ⟨progress, same.trans hp, fun input hqueued => ?_, own⟩
      rcases hmove.isAbortRequested (.task task) with asked | ⟨now, -⟩
      · exact asked.trans (queued input hqueued)
      · exact now
    · obtain rfl := Option.some.inj (hq.symm.trans hp)
      -- from its call on it only gets to the end of this call
      cases goes with
      | @wait input _ unasked => cases (queued input rfl).symm.trans unasked
      | @answer input _ unasked => cases (queued input rfl).symm.trans unasked
      | release => exact ⟨_, next, nofun, own⟩
      | complete unasked => exact ⟨_, next, nofun, own⟩
      | discard pending asked => exact ⟨_, next, nofun, nofun⟩
      | giveUp submission => cases submission
  · exact Nat.lt_of_lt_of_le (h.later gate same) (h.claimed.taken_le hmove)

theorem moves (h : Spent s task gate?) (hmoves : Moves action s s') : Spent s' task gate? :=
  hmoves.induction (fun _ _ (hs : Spent _ task gate?) hmove => hs.move hmove) h

theorem opening (h : Spent s task gate?) (action : Action) :
    Spent (s.opening action) task gate? := by
  obtain ⟨-, same⟩ | ⟨caller, -, opened⟩ := s.opening_cases action
  · rw [same]
    exact h
  · obtain ⟨progress, hp, queued, own⟩ := h.progress
    refine ⟨h.claimed.opening action, ⟨progress, ?_, ?_, own⟩, ?_⟩
    · obtain ⟨input, progressOf⟩ := opened.isQueued
      -- the submission that is new is another one
      rw [progressOf, if_neg, hp]
      rintro rfl
      cases hp.symm.trans opened.isNew
    · rw [opened.isAbortRequested]
      exact queued
    · rw [opened.taken]
      exact h.later

theorem lt (h : Spent s task gate?) : task < s.tasks.length := by
  obtain ⟨progress, hp, -⟩ := h.progress
  rw [progressOf_task, Option.map_eq_some_iff] at hp
  obtain ⟨t, there, -⟩ := hp
  exact (List.getElem?_eq_some_iff.mp there).1

end Spent

/-! ### Running the tasks -/

theorem aside_runTask (later : ∀ gate, gate? = some gate → gate < s.taken)
    (h : other ≠ task) :
    (s.runTask other).aside task gate? = (s.aside task gate?).runTask other := by
  have ne : Caller.task other ≠ .task task := fun same => h (Caller.task.inj same)
  rw [runTask, runTask, aside_tasks_of_ne h]
  cases s.tasks[other]? with
  | none => rfl
  | some t =>
    dsimp only
    split
    · cases t.progress with
      | released number => rw [discard, discard, aside_keep, aside_setProgress ne]
      | completed number => rfl
      | queued input => exact aside_setProgress ne _
      | waiting number => exact aside_setProgress ne _
      | aborted => exact aside_setProgress ne _
    · cases t.progress with
      | queued input => rw [advance, advance, finish_aside later ne]
      | released number => exact aside_complete ne number
      | waiting number => rfl
      | completed number => rfl
      | aborted => rfl

namespace Spent

/-- Running the task is of no concern: it shows its outcome, gives its release back or ends. -/
theorem runTask_self_aside (h : Spent s task gate?) :
    (s.runTask task).aside task gate? = s.aside task gate? := by
  obtain ⟨progress, hp, queued, own⟩ := h.progress
  have ran := s.runTask_ran task
  generalize s.runTask task = ranTo at ran
  cases ran with
  | idle unable => rfl
  | @finish input hq unasked =>
    obtain rfl := Option.some.inj (hq.symm.trans hp)
    cases (queued input rfl).symm.trans unasked
  | @complete number hq unasked =>
    obtain rfl := Option.some.inj (hq.symm.trans hp)
    obtain rfl := own number rfl
    have outcome : (Shown.ended (.task task) (s.outcomeOf number)).isOutcomeOf task = true := by
      simp [Shown.isOutcomeOf]
    rw [complete, aside_shows_self outcome, aside_setProgress_self]
  | discard hq pending asked => exact aside_setProgress_self _
  | @giveBack number hq asked =>
    obtain rfl := Option.some.inj (hq.symm.trans hp)
    obtain rfl := own number rfl
    rw [aside_keep, keep_aside_self, aside_setProgress_self]

theorem foldl_runTask_aside (h : Spent s task gate?) (numbers : List ℕ) :
    (numbers.foldl Rehearsal.runTask s).aside task gate? =
      (numbers.filter (· != task)).foldl Rehearsal.runTask (s.aside task gate?) := by
  induction numbers generalizing s with
  | nil => rfl
  | cons number rest ih =>
    have next : Spent (s.runTask number) task gate? := h.moves (runTask_moves .rest number)
    rw [List.foldl_cons, ih next]
    by_cases same : number = task
    · subst same
      simp [h.runTask_self_aside]
    · simp [same, aside_runTask h.later same]

theorem settle_aside (h : Spent s task gate?) :
    s.settle.aside task gate? = (s.aside task gate?).settle := by
  have free : Move s .rest { s with runnable := [] } := .quiet s.kept []
  have taken : Spent { s with runnable := [] } task gate? := h.move free
  have idle : ({ s with runnable := [] } : Rehearsal).aside task gate? =
      { s.aside task gate? with runnable := [] } := by
    cases gate? <;> rfl
  rw [Rehearsal.settle, Rehearsal.settle, taken.foldl_runTask_aside, idle, aside_runnable]

end Spent

/-! ### From outside -/

theorem aside_enqueue (h : other ≠ task) :
    (if other ∈ s.runnable then s
      else { s with runnable := s.runnable ++ [other] }).aside task gate? =
      if other ∈ (s.aside task gate?).runnable then s.aside task gate?
      else { s.aside task gate? with runnable := (s.aside task gate?).runnable ++ [other] } := by
  by_cases able : other ∈ s.runnable
  · rw [if_pos able, if_pos ((mem_aside_runnable h).mpr able)]
  · rw [if_neg able, if_neg fun again => able ((mem_aside_runnable h).mp again), aside_runnable]
    cases gate? <;> simp [aside, without, mute, h]

theorem aside_enqueue_self :
    (if task ∈ s.runnable then s
      else { s with runnable := s.runnable ++ [task] }).aside task gate? = s.aside task gate? := by
  split
  · rfl
  · cases gate? <;> simp [aside, without, mute]

/-- Asking for its end concerns the task only. -/
theorem aside_abort_self : ((s.abort task).2).aside task gate? = s.aside task gate? := by
  rw [abort]
  cases s.tasks[task]? with
  | none => rfl
  | some t =>
    dsimp only
    split
    · rfl
    · exact (aside_enqueue_self (s := s.requestAbort task)).trans aside_requestAbort_self

/-! ### Who waits at a gate -/

theorem waitingAt?_eq_none_iff {gate : ℕ} : s.waitingAt? gate = none ↔
    ∀ number, s.progressOf (.task number) ≠ some (.waiting gate) := by
  rw [waitingAt?, List.findIdx?_eq_none_iff]
  constructor
  · intro absent number waits
    obtain ⟨t, there, same⟩ := Option.map_eq_some_iff.mp waits
    have nobody := absent t (List.mem_of_getElem? there)
    simp [same] at nobody
  · intro nobody t there
    obtain ⟨number, found⟩ := List.mem_iff_getElem?.mp there
    have elsewhere := nobody number
    rw [progressOf_task, found] at elsewhere
    simpa using elsewhere

/-- Who is the only one to wait at a gate is found there. -/
theorem waitingAt?_eq_some {gate : ℕ} (waits : s.progressOf (.task other) = some (.waiting gate))
    (alone : ∀ number, s.progressOf (.task number) = some (.waiting gate) → number = other) :
    s.waitingAt? gate = some other := by
  cases found : s.waitingAt? gate with
  | none => exact absurd waits (waitingAt?_eq_none_iff.mp found other)
  | some number => rw [alone number (progressOf_of_waitingAt? found)]

/-- Tasks that wait at one gate have made the same call. -/
theorem Claimed.eq_of_waiting (h : Claimed s) {gate number : ℕ}
    (waits : s.progressOf (.task other) = some (.waiting gate))
    (again : s.progressOf (.task number) = some (.waiting gate)) : number = other := by
  obtain ⟨input, made⟩ := h.owned _ _ gate waits rfl
  obtain ⟨input', made'⟩ := h.owned _ _ gate again rfl
  cases made.symm.trans made'
  rfl

/-- The others wait where they waited. -/
theorem waits_aside_iff {number gate : ℕ} :
    (s.aside task gate?).progressOf (.task number) = some (.waiting gate) ↔
      number ≠ task ∧ s.progressOf (.task number) = some (.waiting gate) := by
  by_cases same : number = task
  · subst same
    simp [progressOf_task]
  · rw [progressOf_task, aside_tasks_of_ne same, progressOf_task]
    simp [same]

namespace Spent

/-- A release reaches another task, or stays at a gate, be it that of the task. -/
theorem release_aside (h : Spent s task gate?) (gate : ℕ) : (s.aside task gate?).release gate =
    ((s.release gate).1, (s.release gate).2.aside task gate?) := by
  rw [Rehearsal.release, Rehearsal.release, aside_hasGate]
  split
  · cases found : s.waitingAt? gate with
    | none =>
      have nobody : (s.aside task gate?).waitingAt? gate = none :=
        waitingAt?_eq_none_iff.mpr fun number waits =>
          waitingAt?_eq_none_iff.mp found number (waits_aside_iff.mp waits).2
      rw [nobody]
      exact Prod.ext rfl (aside_keep gate).symm
    | some waiter =>
      have waits := progressOf_of_waitingAt? found
      by_cases same : waiter = task
      · subst same
        obtain ⟨progress, hp, -, own⟩ := h.progress
        obtain rfl := Option.some.inj (waits.symm.trans hp)
        obtain rfl := own gate rfl
        -- with the task set aside nobody waits, and the gate keeps a release already
        have nobody : (s.aside waiter (some gate)).waitingAt? gate = none :=
          waitingAt?_eq_none_iff.mpr fun number again =>
            (waits_aside_iff.mp again).1
              (h.claimed.eq_of_waiting waits (waits_aside_iff.mp again).2)
        rw [nobody]
        have woken : Rehearsal.aside _ waiter (some gate) = _ :=
          @aside_enqueue_self (s.setProgress (.task waiter) (.released gate)) waiter (some gate)
        rw [aside_setProgress_self] at woken
        exact Prod.ext rfl ((keep_aside_self gate).trans woken.symm)
      · have ne : Caller.task waiter ≠ .task task := fun eq => same (Caller.task.inj eq)
        have still : (s.aside task gate?).waitingAt? gate = some waiter :=
          waitingAt?_eq_some (waits_aside_iff.mpr ⟨same, waits⟩) fun number again =>
            h.claimed.eq_of_waiting waits (waits_aside_iff.mp again).2
        have enqueued : Rehearsal.aside _ task gate? = _ :=
          @aside_enqueue (s.setProgress (.task waiter) (.released gate)) task waiter gate? same
        rw [aside_setProgress ne] at enqueued
        rw [still]
        exact Prod.ext rfl enqueued.symm
  · rfl

theorem submit_aside (h : Spent s task gate?) (input : String) : (s.aside task gate?).submit input =
    ((s.submit input).1, (s.submit input).2.aside task gate?) := by
  have own : Caller.submission s.submissions.length ≠ .task task := nofun
  have presented : Spent (s.present input) task gate? := h.opening (.submit input)
  have turn : Move (s.present input) .rest
      ((s.present input).finish (.submission s.submissions.length) input).2 :=
    .finish (progressOf_present_self input) rfl
  have made := presented.move turn
  rw [Rehearsal.submit, Rehearsal.submit, aside_submissions, ← aside_present,
    finish_aside presented.later own]
  dsimp only
  split
  · rfl
  · rw [aside_setProgress own, made.settle_aside]

theorem evaluate_aside (h : Spent s task gate?) (input : String) :
    (s.aside task gate?).evaluate input =
      ((s.evaluate input).1, (s.evaluate input).2.aside task gate?) := by
  have made : Spent (s.call .direct input).2 task gate? := h.moves (.single (.evaluate input))
  rw [Rehearsal.evaluate, Rehearsal.evaluate, call_aside h.later, aside_taken]
  dsimp only
  split
  · rw [aside_outcomeOf]
  · rw [made.settle_aside]

theorem abort_aside (h : Spent s task gate?) (other : ℕ) : (s.aside task gate?).abort other =
    ((s.abort other).1, (s.abort other).2.aside task gate?) := by
  by_cases same : other = task
  · subst same
    obtain ⟨t, there⟩ : ∃ t, s.tasks[other]? = some t := ⟨_, List.getElem?_eq_getElem h.lt⟩
    -- set aside the task has ended, and else only the task is concerned
    have gone : (s.aside other gate?).tasks[other]? = some ⟨.aborted, true⟩ := by
      simp [there]
    have found : (s.abort other).1 = true := by
      rw [Rehearsal.abort, there]
      dsimp only
      split <;> rfl
    rw [found, aside_abort_self, Rehearsal.abort, gone]
    rfl
  · rw [Rehearsal.abort, Rehearsal.abort, aside_tasks_of_ne same]
    cases s.tasks[other]? with
    | none => rfl
    | some t =>
      dsimp only
      split
      · rfl
      · have enqueued : Rehearsal.aside _ task gate? = _ :=
          @aside_enqueue (s.requestAbort other) task other gate? same
        rw [aside_requestAbort same] at enqueued
        exact Prod.ext rfl enqueued.symm

theorem act_aside (h : Spent s task gate?) (action : Action) : (s.aside task gate?).act action =
    ((s.act action).1, (s.act action).2.aside task gate?) := by
  cases action with
  | trigger input => exact Prod.ext rfl (aside_trigger h.lt input).symm
  | submit input =>
    rw [Rehearsal.act, h.submit_aside]
    rfl
  | evaluate input =>
    rw [Rehearsal.act, h.evaluate_aside]
    rfl
  | release gate =>
    rw [Rehearsal.act, h.release_aside]
    rfl
  | abort other =>
    rw [Rehearsal.act, h.abort_aside]
    rfl
  | rest => rfl

/-- A step is the same for the others, and it reports the same. -/
theorem step_aside (h : Spent s task gate?) (step : Step) : (s.aside task gate?).step step =
    ((s.step step).1, (s.step step).2.aside task gate?) := by
  have acted : Spent (s.act step.action).2 task gate? :=
    (h.opening step.action).moves (act_moves step.action)
  rw [Rehearsal.step, Rehearsal.step, h.act_aside]
  dsimp only
  split
  · rw [acted.settle_aside]
  · rfl

theorem step (h : Spent s task gate?) (step : Step) :
    Spent (s.step step).2 task gate? :=
  (h.opening step.action).moves (step_moves step)

theorem run (h : Spent s task gate?) (steps : List Step) :
    Spent (s.run steps) task gate? :=
  run_induction (fun _ step _ hs => hs.opening step.action)
    (fun _ _ _ _ (hs : Spent _ task gate?) hmove => hs.move hmove) h

/-- A run with a task that makes no further call is, for the others, the run without it. -/
theorem run_aside (h : Spent s task gate?) (steps : List Step) :
    (s.run steps).aside task gate? = (s.aside task gate?).run steps := by
  induction steps generalizing s with
  | nil => rfl
  | cons step rest ih => rw [run_cons, run_cons, ih (h.step step), h.step_aside]

end Spent

end EvalConsole.Rehearsal
