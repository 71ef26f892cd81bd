/-
No wake-up is lost, and none comes early.

A gate belongs to one script element, and an element to one call, so a release of a gate is meant
for one call. It is kept until this call arrives, or it reaches the task that waits; no other call
can use it up.

* `Rehearsal.Attended`: whoever is able to run is among those that will be run.
* `Rehearsal.Permitted`: who has passed a gate was let through by a release, and no release was
  lost.
* `Rehearsal.unfinished_iff_unreleased`: which tasks have not ended when all have been run.

Design notes
------------
Both invariants speak of the tasks able to run and of the releases that are kept, which the moves
of a step leave open. They are therefore carried along the operations themselves; for a task that
is run, what it comes to (`Ran`) is still enough.
-/
import EvalConsole.Proofs.Rehearsal.Numbering

namespace EvalConsole.Rehearsal

variable {s s' : Rehearsal} {caller other : Caller} {input : String}

/-! ### What running a task leaves alone -/

theorem progressOf_keep (gate : ℕ) (caller : Caller) :
    (s.keep gate).progressOf caller = s.progressOf caller := by
  rw [keep]
  split
  · rfl
  · exact progressOf_quiet _ s.runnable caller

theorem isAbortRequested_keep (gate : ℕ) (caller : Caller) :
    (s.keep gate).isAbortRequested caller = s.isAbortRequested caller := by
  rw [keep]
  split
  · rfl
  · exact isAbortRequested_quiet _ s.runnable caller

/-- A submission that makes its call is no concern of the others. -/
theorem progressOf_finish_of_ne (ne : caller ≠ other) :
    (s.finish caller input).2.progressOf other = s.progressOf other := by
  obtain ⟨kept, finished | finished⟩ := s.finish_cases caller input
  · rw [finished, complete, progressOf_shows, progressOf_setProgress_of_ne ne]
    exact progressOf_claim caller input kept other
  · rw [finished, progressOf_setProgress_of_ne ne]
    exact progressOf_claim caller input kept other

theorem isAbortRequested_finish (other : Caller) :
    (s.finish caller input).2.isAbortRequested other = s.isAbortRequested other := by
  obtain ⟨kept, finished | finished⟩ := s.finish_cases caller input
  · rw [finished, complete, isAbortRequested_shows, isAbortRequested_setProgress]
    exact isAbortRequested_claim caller input kept other
  · rw [finished, isAbortRequested_setProgress]
    exact isAbortRequested_claim caller input kept other

theorem progressOf_setProgress_cases {next progress : Progress}
    (hp : (s.setProgress caller next).progressOf other = some progress) :
    caller = other ∧ progress = next ∨ caller ≠ other ∧ s.progressOf other = some progress := by
  rw [progressOf_setProgress] at hp
  split at hp
  · obtain ⟨_, -, same⟩ := Option.map_eq_some_iff.mp hp
    exact .inl ⟨‹_›, same.symm⟩
  · exact .inr ⟨‹_›, hp⟩

theorem setProgress_runnable (progress : Progress) :
    (s.setProgress caller progress).runnable = s.runnable := by
  cases caller <;> rfl

theorem finish_runnable : (s.finish caller input).2.runnable = s.runnable := by
  obtain ⟨kept, finished | finished⟩ := s.finish_cases caller input
  · rw [finished]
    exact setProgress_runnable _
  · rw [finished]
    exact setProgress_runnable _

namespace Ran

variable {task : ℕ}

/-- A task that is run is no concern of the other submissions. -/
theorem progressOf_of_ne (h : Ran s task s') (ne : caller ≠ .task task) :
    s'.progressOf caller = s.progressOf caller := by
  cases h with
  | idle unable => rfl
  | finish hp ha => exact progressOf_finish_of_ne ne.symm
  | complete hp ha =>
    rw [Rehearsal.complete, progressOf_shows, progressOf_setProgress_of_ne ne.symm]
  | discard hp pending ha => exact progressOf_setProgress_of_ne ne.symm _
  | giveBack hp ha => rw [progressOf_keep, progressOf_setProgress_of_ne ne.symm]

theorem isAbortRequested (h : Ran s task s') (caller : Caller) :
    s'.isAbortRequested caller = s.isAbortRequested caller := by
  cases h with
  | idle unable => rfl
  | finish hp ha => exact isAbortRequested_finish caller
  | complete hp ha =>
    rw [Rehearsal.complete, isAbortRequested_shows, isAbortRequested_setProgress]
  | discard hp pending ha => exact isAbortRequested_setProgress ..
  | giveBack hp ha => rw [isAbortRequested_keep, isAbortRequested_setProgress]

/-- A task that has been run has nothing more to do. -/
theorem isAble_eq_false (h : Ran s task s') : s'.isAble task = false := by
  have asked := h.isAbortRequested (.task task)
  cases h with
  | idle unable => exact unable
  | @finish input hp ha =>
    rw [isAble, progressOf_finish hp, asked, ha]
    cases (s.finish (.task task) input).1 <;> rfl
  | @complete number hp ha =>
    have completed : (s.complete (.task task) number).progressOf (.task task) =
        some (.completed number) :=
      (progressOf_shows ..).trans (progressOf_setProgress_self hp _)
    rw [isAble, completed]
  | discard hp pending ha => rw [isAble, progressOf_setProgress_self hp]
  | giveBack hp ha => rw [isAble, progressOf_keep, progressOf_setProgress_self hp]

end Ran

/-! ### Tasks that are able to run -/

theorem isAble_congr {number : ℕ}
    (progress : s'.progressOf (.task number) = s.progressOf (.task number))
    (abort : s'.isAbortRequested (.task number) = s.isAbortRequested (.task number)) :
    s'.isAble number = s.isAble number := by
  rw [isAble, isAble, progress, abort]

/-- Every task that is able to run has one of these numbers. -/
def AbleAmong (numbers : List ℕ) (s : Rehearsal) : Prop :=
  ∀ number, s.isAble number = true → number ∈ numbers

/-- Every task that is able to run will be run. -/
def Attended (s : Rehearsal) : Prop :=
  AbleAmong s.runnable s

theorem AbleAmong.congr {numbers : List ℕ} (h : AbleAmong numbers s)
    (same : ∀ number, s'.isAble number = s.isAble number) : AbleAmong numbers s' :=
  fun number able => h number (same number ▸ able)

theorem AbleAmong.runTask {number : ℕ} {rest : List ℕ} (h : AbleAmong (number :: rest) s) :
    AbleAmong rest (s.runTask number) := by
  intro other able
  have ran := s.runTask_ran number
  have ne : other ≠ number := by
    rintro rfl
    rw [ran.isAble_eq_false] at able
    cases able
  have before : s.isAble other = true := by
    rw [← able]
    refine (isAble_congr (ran.progressOf_of_ne fun same => ?_) (ran.isAbortRequested _)).symm
    exact ne (Caller.task.inj same)
  exact (List.mem_cons.mp (h other before)).resolve_left ne

theorem AbleAmong.foldl_runTask {numbers : List ℕ} (h : AbleAmong numbers s) :
    AbleAmong [] (numbers.foldl Rehearsal.runTask s) := by
  induction numbers generalizing s with
  | nil => exact h
  | cons number rest ih => exact ih h.runTask

namespace Attended

theorem congr (h : Attended s) (same : ∀ number, s'.isAble number = s.isAble number)
    (runnable : s'.runnable = s.runnable) : Attended s' := by
  rw [Attended, runnable]
  exact AbleAmong.congr h same

/-- When all tasks have been run, none is able to run. -/
theorem settle (h : Attended s) : AbleAmong [] s.settle := by
  have taken : AbleAmong s.runnable { s with runnable := [] } := AbleAmong.congr h fun _ => rfl
  exact taken.foldl_runTask

/-- A task that becomes able to run is added to those that will be run. -/
theorem enqueue {number : ℕ} (h : AbleAmong (number :: s.runnable) s) :
    Attended (if number ∈ s.runnable then s
      else { s with runnable := s.runnable ++ [number] }) := by
  split
  · rename_i there
    intro other able
    rcases List.mem_cons.mp (h other able) with rfl | waiting
    · exact there
    · exact waiting
  · intro other able
    have among := h other able
    simpa [or_comm] using among

theorem finish (h : Attended s) (foreground : ∀ number, caller ≠ .task number) :
    Attended (s.finish caller input).2 :=
  h.congr (fun number => isAble_congr (progressOf_finish_of_ne (foreground number))
    (isAbortRequested_finish _)) finish_runnable

theorem trigger (h : Attended s) (input : String) : Attended (s.trigger input) := by
  intro number able
  show number ∈ s.runnable ++ [s.tasks.length]
  by_cases new : number = s.tasks.length
  · simp [new]
  · have before : s.isAble number = true := by
      rw [← able]
      refine (isAble_congr ?_ (isAbortRequested_trigger ..)).symm
      rw [progressOf_trigger, if_neg fun same => new (Caller.task.inj same)]
    exact List.mem_append_left _ (h number before)

theorem submit (h : Attended s) (input : String) : Attended (s.submit input).2 := by
  have presented : Attended (s.present input) := h.congr (fun _ => rfl) rfl
  have finished : Attended
      ((s.present input).finish (.submission s.submissions.length) input).2 :=
    presented.finish nofun
  rcases s.submit_cases input with ⟨ended, -⟩ | ⟨waits, -⟩
  · rw [ended]
    exact finished
  · rw [waits]
    have settled := finished.settle
    intro number able
    cases settled number able

theorem evaluate (h : Attended s) (input : String) : Attended (s.evaluate input).2 := by
  obtain ⟨goes, kept, called⟩ := s.call_cases .direct input
  have claimed : Attended (s.claim .direct input kept) :=
    h.congr (fun number => rfl) rfl
  rw [Rehearsal.evaluate, called]
  dsimp only
  split
  · exact claimed
  · intro number able
    cases claimed.settle number able

theorem release (h : Attended s) (gate : ℕ) : Attended (s.release gate).2 := by
  rw [Rehearsal.release]
  split
  · cases s.waitingAt? gate with
    | none =>
      refine h.congr (fun number => ?_) (keep_frame gate).2.1
      exact isAble_congr (progressOf_keep ..) (isAbortRequested_keep ..)
    | some task =>
      refine enqueue (s := s.setProgress (.task task) (.released gate)) fun number able => ?_
      by_cases own : number = task
      · exact List.mem_cons.mpr (.inl own)
      · refine List.mem_cons_of_mem _ (h number ?_)
        rw [← able]
        refine (isAble_congr ?_ (isAbortRequested_setProgress ..)).symm
        exact progressOf_setProgress_of_ne (fun same => own (Caller.task.inj same).symm) _
  · exact h

theorem abort (h : Attended s) (task : ℕ) : Attended (s.abort task).2 := by
  rw [Rehearsal.abort]
  cases there : s.tasks[task]? with
  | none => exact h
  | some t =>
    dsimp only
    split
    · exact h
    · have bound : task < s.tasks.length := (List.getElem?_eq_some_iff.mp there).1
      refine enqueue (s := s.requestAbort task) fun number able => ?_
      by_cases own : number = task
      · exact List.mem_cons.mpr (.inl own)
      · refine List.mem_cons_of_mem _ (h number ?_)
        rw [← able]
        refine (isAble_congr (progressOf_requestAbort ..) ?_).symm
        simp [isAbortRequested_requestAbort bound, own]

theorem act (h : Attended s) (action : Action) : Attended (s.act action).2 := by
  cases action with
  | trigger input => exact h.trigger input
  | submit input => exact h.submit input
  | evaluate input => exact h.evaluate input
  | release gate => exact h.release gate
  | abort task => exact h.abort task
  | rest => exact h

theorem run (h : Attended s) (steps : List Step) : Attended (s.run steps) := by
  induction steps generalizing s with
  | nil => exact h
  | cons step rest ih =>
    refine ih (s := (s.step step).2) ?_
    rw [step_snd]
    split
    · intro number able
      cases (h.act step.action).settle number able
    · exact h.act step.action

theorem start (script : List ScriptElement) : Attended (start script) := by
  intro number able
  cases able

end Attended

/-! ### Releases -/

/-- The gate that is released. -/
def Action.released? : Action → Option ℕ
  | .release gate => some gate
  | _ => none

/-- A call passes if its element has no gate or if the gate keeps a release, which is used up. -/
theorem call_passes_or_waits (s : Rehearsal) (caller : Caller) (input : String) :
    (∃ kept, s.call caller input =
        (true, s.claim caller input kept) ∧
      (∀ gate, gate ∈ kept → gate ∈ s.kept) ∧
      (∀ gate ∈ s.kept, gate ≠ s.taken → gate ∈ kept) ∧
      (s.hasGate s.taken = true → s.taken ∈ s.kept)) ∨
    s.call caller input = (false, s.claim caller input s.kept) ∧
      s.taken ∉ s.kept := by
  have gate : (s.startCall caller input).hasGate s.taken = s.hasGate s.taken := rfl
  have same : (s.startCall caller input).kept = s.kept := rfl
  rw [call, arrive, gate, same]
  by_cases gated : s.hasGate s.taken = true
  · rw [if_pos gated]
    by_cases released : s.taken ∈ s.kept
    · rw [if_pos released]
      refine .inl ⟨_, rfl, fun gate => List.mem_of_mem_filter, fun gate there ne => ?_,
        fun _ => released⟩
      simpa [ne] using there
    · rw [if_neg released]
      exact .inr ⟨rfl, released⟩
  · rw [if_neg gated]
    exact .inl ⟨s.kept, rfl, fun _ => id, fun _ there _ => there, fun again => absurd again gated⟩

/-- Whoever has passed a gate was let through by a release, and no release is lost. -/
structure Permitted (released : List ℕ) (s : Rehearsal) : Prop where
  /-- Only releases are kept. -/
  kept : ∀ gate ∈ s.kept, gate ∈ released
  /-- Only a release makes a submission go on. -/
  woken : ∀ caller gate, s.progressOf caller = some (.released gate) → gate ∈ released
  /-- Only a release lets a submission pass. -/
  passed : ∀ caller gate, s.progressOf caller = some (.completed gate) →
    s.hasGate gate = true → gate ∈ released
  /-- A release is kept until the call arrives that it is meant for. -/
  stored : ∀ gate ∈ released, s.hasGate gate = true → s.taken ≤ gate → gate ∈ s.kept
  /-- No task waits at a gate that has been released. -/
  free : ∀ gate ∈ released, ∀ number, s.progressOf (.task number) ≠ some (.waiting gate)

namespace Permitted

variable {released : List ℕ}

theorem start (script : List ScriptElement) : Permitted [] (start script) where
  kept := nofun
  woken caller gate hp := by cases caller <;> cases hp
  passed caller gate hp := by cases caller <;> cases hp
  stored := nofun
  free := nofun

theorem congr (h : Permitted released s) (script : s'.script = s.script)
    (taken : s'.taken = s.taken) (kept : s'.kept = s.kept)
    (same : ∀ caller, s'.progressOf caller = s.progressOf caller) : Permitted released s' := by
  have gates (gate : ℕ) : s'.hasGate gate = s.hasGate gate := by rw [hasGate, hasGate, script]
  constructor
  · rw [kept]
    exact h.kept
  · intro caller gate hp
    exact h.woken caller gate (same caller ▸ hp)
  · intro caller gate hp gated
    exact h.passed caller gate (same caller ▸ hp) (gates gate ▸ gated)
  · rw [kept, taken]
    intro gate opened gated
    exact h.stored gate opened (gates gate ▸ gated)
  · intro gate opened number hp
    exact h.free gate opened number (same _ ▸ hp)

/-- A submission can be set as far as the releases allow. -/
theorem setProgress (h : Permitted released s) (caller : Caller) {next : Progress}
    (woken : ∀ gate, next = .released gate → gate ∈ released)
    (passed : ∀ gate, next = .completed gate → s.hasGate gate = true → gate ∈ released)
    (free : ∀ gate, next = .waiting gate → gate ∉ released) :
    Permitted released (s.setProgress caller next) := by
  have gates (gate : ℕ) : (s.setProgress caller next).hasGate gate = s.hasGate gate := by
    rw [hasGate, hasGate, setProgress_script]
  have kept : (s.setProgress caller next).kept = s.kept := by cases caller <;> rfl
  constructor
  · rw [kept]
    exact h.kept
  · intro other gate hp
    rcases progressOf_setProgress_cases hp with ⟨-, own⟩ | ⟨-, before⟩
    · exact woken gate own.symm
    · exact h.woken other gate before
  · intro other gate hp gated
    rw [gates] at gated
    rcases progressOf_setProgress_cases hp with ⟨-, own⟩ | ⟨-, before⟩
    · exact passed gate own.symm gated
    · exact h.passed other gate before gated
  · rw [kept, setProgress_taken]
    intro gate opened gated
    exact h.stored gate opened (gates gate ▸ gated)
  · intro gate opened number hp
    rcases progressOf_setProgress_cases hp with ⟨-, own⟩ | ⟨-, before⟩
    · exact free gate own.symm opened
    · exact h.free gate opened number before

theorem complete (h : Permitted released s) (caller : Caller) {call : ℕ}
    (passed : s.hasGate call = true → call ∈ released) :
    Permitted released (s.complete caller call) := by
  have set : Permitted released (s.setProgress caller (.completed call)) :=
    h.setProgress caller nofun (fun gate same gated => by cases same; exact passed gated) nofun
  exact set.congr rfl rfl rfl fun other => progressOf_shows _ other

theorem abandon (h : Permitted released s) (caller : Caller) :
    Permitted released (s.setProgress caller .aborted) :=
  h.setProgress caller nofun nofun nofun

/-- A call that starts uses up at most the release that was meant for it. -/
theorem claim (h : Permitted released s) (caller : Caller) (input : String) {kept : List ℕ}
    (fewer : ∀ gate, gate ∈ kept → gate ∈ s.kept)
    (others : ∀ gate ∈ s.kept, gate ≠ s.taken → gate ∈ kept) :
    Permitted released (s.claim caller input kept) where
  kept gate there := h.kept gate (fewer gate there)
  woken other gate hp := h.woken other gate ((progressOf_claim ..).symm.trans hp)
  passed other gate hp := h.passed other gate ((progressOf_claim ..).symm.trans hp)
  stored gate opened gated later := by
    have later' : s.taken + 1 ≤ gate := later
    exact others gate (h.stored gate opened gated (by omega)) (by omega)
  free := h.free

/-- A submission that makes its call passes if the gate of its element has been released, and
waits if it has not. -/
theorem finish (h : Permitted released s) (caller : Caller) (input : String) :
    Permitted released (s.finish caller input).2 := by
  rcases s.call_passes_or_waits caller input with
    ⟨kept, called, fewer, others, permit⟩ | ⟨called, unreleased⟩
  · rw [Rehearsal.finish, called]
    exact (h.claim _ _ fewer others).complete caller fun gated => h.kept _ (permit gated)
  · have gated : s.hasGate s.taken = true := hasGate_of_call (by rw [called])
    rw [Rehearsal.finish, called]
    refine (h.claim _ _ (fun _ => id) fun _ there _ => there).setProgress caller (by simp) (by simp) ?_
    rintro _ ⟨⟩ opened
    exact unreleased (h.stored _ opened gated le_rfl)

theorem keep (h : Permitted released s) {gate : ℕ} (opened : gate ∈ released) :
    Permitted released (s.keep gate) := by
  rw [Rehearsal.keep]
  split
  · exact h
  · constructor
    · intro other there
      rcases List.mem_cons.mp there with rfl | before
      · exact opened
      · exact h.kept other before
    · exact fun caller other hp => h.woken caller other
        ((progressOf_quiet _ s.runnable caller).symm.trans hp)
    · exact fun caller other hp => h.passed caller other
        ((progressOf_quiet _ s.runnable caller).symm.trans hp)
    · exact fun other there gated later => List.mem_cons_of_mem _ (h.stored other there gated later)
    · exact h.free

theorem ran (h : Permitted released s) {task : ℕ} (hran : Ran s task s') :
    Permitted released s' := by
  cases hran with
  | idle unable => exact h
  | finish hp ha => exact h.finish _ _
  | complete hp ha => exact h.complete _ fun _ => h.woken _ _ hp
  | discard hp pending ha => exact h.abandon _
  | giveBack hp ha => exact (h.abandon _).keep (h.woken _ _ hp)

theorem foldl_runTask (h : Permitted released s) (numbers : List ℕ) :
    Permitted released (numbers.foldl Rehearsal.runTask s) := by
  induction numbers generalizing s with
  | nil => exact h
  | cons number rest ih => exact ih (h.ran (s.runTask_ran number))

theorem settle (h : Permitted released s) : Permitted released s.settle := by
  have taken : Permitted released { s with runnable := [] } :=
    h.congr rfl rfl rfl (progressOf_quiet s.kept [])
  exact taken.foldl_runTask s.runnable

theorem opening (h : Permitted released s) (action : Action) :
    Permitted released (s.opening action) := by
  have kept : (s.opening action).kept = s.kept := by cases action <;> rfl
  have taken : (s.opening action).taken = s.taken := by cases action <;> rfl
  have gates (gate : ℕ) : (s.opening action).hasGate gate = s.hasGate gate := by
    rw [hasGate, hasGate, opening_script]
  -- the submission that is new is queued
  have before {caller : Caller} {progress : Progress}
      (made : ∀ input, progress ≠ .queued input)
      (hp : (s.opening action).progressOf caller = some progress) :
      s.progressOf caller = some progress := by
    rcases progressOf_opening action caller with same | ⟨-, input, queued⟩
    · exact same.symm.trans hp
    · exact absurd (Option.some.inj (hp.symm.trans queued)) (made input)
  constructor
  · rw [kept]
    exact h.kept
  · exact fun caller gate hp => h.woken caller gate (before (by simp) hp)
  · exact fun caller gate hp gated => h.passed caller gate (before (by simp) hp) (gates gate ▸ gated)
  · rw [kept, taken]
    exact fun gate opened gated => h.stored gate opened (gates gate ▸ gated)
  · exact fun gate opened number hp => h.free gate opened number (before (by simp) hp)

theorem submit (h : Permitted released s) (input : String) :
    Permitted released (s.submit input).2 := by
  have finished := (h.opening (.submit input)).finish (.submission s.submissions.length) input
  rcases s.submit_cases input with ⟨ended, -⟩ | ⟨waits, -⟩
  · rw [ended]
    exact finished
  · rw [waits]
    exact finished.settle.abandon (.submission s.submissions.length)

theorem evaluate (h : Permitted released s) (input : String) :
    Permitted released (s.evaluate input).2 := by
  rcases s.call_passes_or_waits .direct input with ⟨kept, called, fewer, others, -⟩ | ⟨called, -⟩
  · rw [Rehearsal.evaluate, called]
    exact h.claim _ _ fewer others
  · rw [Rehearsal.evaluate, called]
    exact (h.claim _ _ (fun _ => id) fun _ there _ => there).settle

/-- A gate at which no task waits is released, and the release is kept if its call is still to
come. -/
theorem opened (h : Permitted released s) {gate : ℕ} {kept : List ℕ}
    (still : ∀ other ∈ s.kept, other ∈ kept)
    (only : ∀ other ∈ kept, other ∈ s.kept ∨ other = gate)
    (stored : s.hasGate gate = true → s.taken ≤ gate → gate ∈ kept)
    (free : ∀ number, s.progressOf (.task number) ≠ some (.waiting gate)) :
    Permitted (released ++ [gate]) { s with kept } where
  kept other there := by
    rcases only other there with before | rfl
    · exact List.mem_append_left _ (h.kept other before)
    · simp
  woken caller other hp := List.mem_append_left _
    (h.woken caller other ((progressOf_quiet kept s.runnable _).symm.trans hp))
  passed caller other hp gated := List.mem_append_left _
    (h.passed caller other ((progressOf_quiet kept s.runnable _).symm.trans hp) gated)
  stored other there gated later := by
    rcases List.mem_append.mp there with before | now
    · exact still other (h.stored other before gated later)
    · obtain rfl := List.mem_singleton.mp now
      exact stored gated later
  free other there number := by
    rcases List.mem_append.mp there with before | now
    · exact h.free other before number
    · obtain rfl := List.mem_singleton.mp now
      exact free number

/-- The task that waits at a gate is released, and then none waits there. -/
theorem wake (h : Permitted released s) (claimed : Claimed s) {gate task : ℕ}
    (waits : s.progressOf (.task task) = some (.waiting gate)) :
    Permitted (released ++ [gate]) (s.setProgress (.task task) (.released gate)) := by
  obtain ⟨input, called⟩ := claimed.owned _ _ _ waits rfl
  have bound : gate < s.taken := claimed.lt_taken waits rfl
  -- no other task has made the call with this number
  have alone (number : ℕ) (again : s.progressOf (.task number) = some (.waiting gate)) :
      number = task := by
    obtain ⟨_, called'⟩ := claimed.owned _ _ _ again rfl
    cases called.symm.trans called'
    rfl
  -- as long as the task is away, nobody waits at the gate
  have away : Permitted (released ++ [gate]) (s.setProgress (.task task) .aborted) := by
    refine (h.abandon (.task task)).opened (fun _ => id) (fun _ => .inl)
      (fun _ later => ?_) fun number hp => ?_
    · rw [setProgress_taken] at later
      omega
    · rcases progressOf_setProgress_cases hp with ⟨-, own⟩ | ⟨ne, before⟩
      · cases own
      · exact ne (congrArg Caller.task (alone number before).symm)
  have woken : Permitted (released ++ [gate])
      ((s.setProgress (.task task) .aborted).setProgress (.task task) (.released gate)) :=
    away.setProgress (.task task) (by rintro _ ⟨⟩; simp) nofun nofun
  refine woken.congr rfl rfl rfl fun other => ?_
  rw [progressOf_setProgress, progressOf_setProgress, progressOf_setProgress]
  split <;> simp [Function.comp_def]

theorem release (h : Permitted released s) (claimed : Claimed s) (atGate : AtGate s) (gate : ℕ) :
    Permitted (released ++ [gate]) (s.release gate).2 := by
  rw [Rehearsal.release]
  split
  · cases found : s.waitingAt? gate with
    | none =>
      have nobody := waitingAt?_eq_none_iff.mp found
      dsimp only
      rw [Rehearsal.keep]
      split
      · exact h.opened (fun _ => id) (fun _ => .inl) (fun _ _ => ‹_›) nobody
      · exact h.opened (fun _ => List.mem_cons_of_mem _)
          (fun _ there => (List.mem_cons.mp there).symm) (fun _ _ => List.mem_cons_self) nobody
    | some task =>
      have woken := h.wake claimed (progressOf_of_waitingAt? found)
      dsimp only
      split
      · exact woken
      · exact woken.congr rfl rfl rfl (progressOf_quiet _ _)
  · rename_i gateless
    refine h.opened (fun _ => id) (fun _ => .inl) (fun gated => absurd gated gateless)
      fun number waits => ?_
    rcases atGate _ _ gate waits rfl with completed | gated
    · cases completed
    · exact gateless gated

theorem abort (h : Permitted released s) (task : ℕ) : Permitted released (s.abort task).2 := by
  rw [Rehearsal.abort]
  cases s.tasks[task]? with
  | none => exact h
  | some t =>
    have asked : Permitted released (s.requestAbort task) :=
      h.congr rfl rfl rfl (progressOf_requestAbort task)
    dsimp only
    split
    · exact h
    · split
      · exact asked
      · exact asked.congr rfl rfl rfl (progressOf_quiet _ _)

theorem act (h : Permitted released s) (claimed : Claimed s) (atGate : AtGate s)
    (action : Action) : Permitted (released ++ action.released?.toList) (s.act action).2 := by
  cases action with
  | release gate => exact h.release claimed atGate gate
  | trigger input => exact (List.append_nil released).symm ▸ h.opening (.trigger input)
  | submit input => exact (List.append_nil released).symm ▸ h.submit input
  | evaluate input => exact (List.append_nil released).symm ▸ h.evaluate input
  | abort task => exact (List.append_nil released).symm ▸ h.abort task
  | rest => exact (List.append_nil released).symm ▸ h

theorem run (script : List ScriptElement) (steps : List Step) :
    Permitted (steps.filterMap (·.action.released?)) ((Rehearsal.start script).run steps) := by
  induction steps using List.reverseRecOn with
  | nil => exact .start script
  | append_singleton steps step ih =>
    have acted := ih.act ((Claimed.start script).run steps) (AtGate.run script steps) step.action
    rw [run_concat, filterMap_concat, step_snd]
    split
    · exact acted.settle
    · exact acted

end Permitted

theorem mem_released_iff {steps : List Step} {gate : ℕ} :
    gate ∈ steps.filterMap (·.action.released?) ↔
      ∃ step ∈ steps, step.action = .release gate := by
  rw [List.mem_filterMap]
  refine exists_congr fun step => and_congr_right fun _ => ?_
  cases step.action <;> simp [Action.released?]

/-! ### When all tasks have been run -/

theorem finished_getElem? (number : ℕ) :
    s.finished[number]? = (s.progressOf (.task number)).map Progress.isEnded := by
  simp [finished, progressOf_task, Function.comp_def]

/-- When all tasks have been run, a task has ended or waits, and then nobody has asked for its
end. -/
theorem ended_or_waits (unable : ∀ number, s.isAble number = false) {number : ℕ}
    {progress : Progress} (hp : s.progressOf (.task number) = some progress) :
    progress.isEnded = true ∨
      ∃ gate, progress = .waiting gate ∧ s.isAbortRequested (.task number) = false := by
  have still := unable number
  rw [isAble, hp] at still
  cases progress with
  | queued input => cases still
  | waiting gate => exact .inr ⟨gate, rfl, still⟩
  | released gate => cases still
  | completed call => exact .inl rfl
  | aborted => exact .inl rfl

theorem isAble_of_settled (script : List ScriptElement) {steps : List Step}
    (settled : ((start script).run steps).runnable = []) (number : ℕ) :
    ((start script).run steps).isAble number = false := by
  have attended := (Attended.start script).run steps
  rw [Attended, settled] at attended
  by_contra able
  exact absurd (attended number (by simpa using able)) (by simp)

/-- A task that was there when its end was asked for has ended when all tasks have been run. -/
theorem finished_of_abort {number : ℕ} {settles : Bool} {after : List Step}
    (there : number < s.tasks.length)
    (unable : ∀ other, (s.run (⟨.abort number, settles⟩ :: after)).isAble other = false) :
    (s.run (⟨.abort number, settles⟩ :: after)).finished[number]? = some true := by
  obtain ⟨t, found⟩ : ∃ t, s.tasks[number]? = some t := ⟨_, List.getElem?_eq_getElem there⟩
  have hp : s.progressOf (.task number) = some t.progress := by
    rw [progressOf_task, found]
    rfl
  rw [finished_getElem?]
  by_cases ended : t.progress.isEnded = true
  · -- it had ended before, and stays as it is
    have same : (s.act (.abort number)).2 = s := by
      simp [Rehearsal.act, Rehearsal.abort, found, ended]
    rw [← same] at hp
    rw [progressOf_run_of_isEnded ended hp settles after, Option.map_some, ended]
  · have pending : s.finished[number]? = some false := by
      rw [finished_getElem?, hp, Option.map_some, Bool.eq_false_iff.mpr ended]
    obtain ⟨asked, progress, last, -⟩ := (Doomed.abort pending).run settles after
    rw [last, Option.map_some]
    rcases ended_or_waits unable last with ended | ⟨gate, -, unasked⟩
    · rw [ended]
    · cases asked.symm.trans unasked

/-- Running the tasks concerns those that are able to run. -/
theorem progressOf_settle_of_forall_ne (away : ∀ number ∈ s.runnable, caller ≠ .task number) :
    s.settle.progressOf caller = s.progressOf caller := by
  have fold (numbers : List ℕ) (s : Rehearsal) (away : ∀ number ∈ numbers, caller ≠ .task number) :
      (numbers.foldl runTask s).progressOf caller = s.progressOf caller := by
    induction numbers generalizing s with
    | nil => rfl
    | cons number rest ih =>
      rw [List.foldl_cons, ih _ fun other there => away other (List.mem_cons_of_mem _ there)]
      exact (s.runTask_ran number).progressOf_of_ne (away number List.mem_cons_self)
  rw [settle, fold _ _ away]
  exact progressOf_quiet s.kept [] caller

/-- When all tasks have been run, a release concerns only the task that waits at the gate. -/
theorem progressOf_step_release (idle : s.runnable = []) {gate : ℕ} (settles : Bool)
    (elsewhere : s.progressOf caller ≠ some (.waiting gate)) :
    (s.step ⟨.release gate, settles⟩).2.progressOf caller = s.progressOf caller := by
  have released : (s.release gate).2.progressOf caller = s.progressOf caller ∧
      ∀ number ∈ (s.release gate).2.runnable, caller ≠ .task number := by
    rw [Rehearsal.release]
    split
    · cases found : s.waitingAt? gate with
      | none =>
        refine ⟨progressOf_keep .., ?_⟩
        rw [(keep_frame gate).2.1, idle]
        simp
      | some task =>
        have ne : caller ≠ .task task := by
          rintro rfl
          exact elsewhere (progressOf_of_waitingAt? found)
        have away : task ∉ s.runnable := by simp [idle]
        dsimp only
        rw [if_neg away, idle]
        refine ⟨?_, fun number there => ?_⟩
        · exact (progressOf_quiet _ _ _).trans (progressOf_setProgress_of_ne ne.symm _)
        · obtain rfl := List.mem_singleton.mp there
          exact ne
    · exact ⟨rfl, by simp [idle]⟩
  have act : (s.act (.release gate)).2 = (s.release gate).2 := rfl
  rw [step_snd, act]
  split
  · rw [progressOf_settle_of_forall_ne released.2, released.1]
  · exact released.1

/-- When all tasks have been run, a task that was not aborted has made its call, and has not ended
just if the gate of its element has never been released. -/
theorem Permitted.unfinished_iff {released : List ℕ} (h : Permitted released s)
    (unable : ∀ number, s.isAble number = false) (atGate : AtGate s) {number : ℕ}
    {progress : Progress} (hp : s.progressOf (.task number) = some progress)
    (unaborted : progress ≠ .aborted) :
    ∃ k, progress.call? = some k ∧
      (s.finished[number]? = some false ↔ s.hasGate k = true ∧ k ∉ released) := by
  rw [finished_getElem?, hp]
  rcases ended_or_waits unable hp with ended | ⟨k, rfl, -⟩
  · cases progress with
    | queued input => cases ended
    | waiting k => cases ended
    | released k => cases ended
    | aborted => exact absurd rfl unaborted
    | completed k =>
      -- it has passed its gate, if there is one, and only a release lets it
      refine ⟨k, rfl, iff_of_false (by simp [Progress.isEnded]) ?_⟩
      rintro ⟨gated, unreleased⟩
      exact unreleased (h.passed _ k hp gated)
  · have gated : s.hasGate k = true := (atGate _ _ k hp rfl).resolve_left (by simp)
    exact ⟨k, rfl, iff_of_true rfl ⟨gated, fun opened => h.free k opened number hp⟩⟩

/-- After a step that runs the tasks, all have been run. -/
theorem run_runnable_of_settles (steps : List Step) (action : Action) :
    (s.run (steps ++ [⟨action, true⟩])).runnable = [] := by
  rw [run_concat, step_snd]
  exact settle_runnable

/-- No wake-up is lost, and none comes early. When all tasks have been run after any steps, a task
that was not aborted has made its call, and it has not ended just if its element is gated and the
gate has never been released, be it before the call or after it. A task that was aborted has
ended. A release concerns nobody but the task that waits at the gate, and so a release of a gate
that has been released before concerns nobody. -/
theorem unfinished_iff_unreleased (script : List ScriptElement) (steps : List Step)
    (settled : ((start script).run steps).runnable = []) :
    let s := (start script).run steps
    (∀ number < s.tasks.length, s.isAbortRequested (.task number) = false →
      ∃ k input, s.calls[k]? = some ⟨.task number, input⟩ ∧
        (∀ (other : ℕ) (made : Call), s.calls[other]? = some made →
          made.caller = .task number → other = k) ∧
        (s.finished[number]? = some false ↔
          (∃ element, script[k]? = some element ∧ element.gated = true) ∧
            ∀ step ∈ steps, step.action ≠ .release k)) ∧
    (∀ number, (∀ step ∈ steps, step.action ≠ .abort number) →
      s.isAbortRequested (.task number) = false) ∧
    (∀ before number settles after, steps = before ++ ⟨.abort number, settles⟩ :: after →
      number < ((start script).run before).tasks.length → s.finished[number]? = some true) ∧
    (∀ gate settles caller, s.progressOf caller ≠ some (.waiting gate) →
      (s.step ⟨.release gate, settles⟩).2.progressOf caller = s.progressOf caller) ∧
    ∀ gate settles number, (∃ step ∈ steps, step.action = .release gate) →
      (s.step ⟨.release gate, settles⟩).2.progressOf (.task number) =
        s.progressOf (.task number) := by
  intro s
  have claimed : Claimed s := (Claimed.start script).run steps
  have permitted : Permitted (steps.filterMap (·.action.released?)) s := .run script steps
  have unable : ∀ number, s.isAble number = false := isAble_of_settled script settled
  have gated_iff (k : ℕ) : s.hasGate k = true ↔
      ∃ element, script[k]? = some element ∧ element.gated = true := by
    rw [hasGate, run_script, start]
    cases script[k]? <;> simp
  refine ⟨fun number there unasked => ?_, fun number never => ?_,
    fun before number settles after split there => ?_, fun gate settles caller => ?_,
    fun gate settles number released => ?_⟩
  · obtain ⟨t, found⟩ : ∃ t, s.tasks[number]? = some t := ⟨_, List.getElem?_eq_getElem there⟩
    have hp : s.progressOf (.task number) = some t.progress := by
      rw [progressOf_task, found]
      rfl
    obtain ⟨k, own, unfinished⟩ := permitted.unfinished_iff unable (AtGate.run script steps) hp
      fun aborted => by
        rw [aborted] at hp
        cases unasked.symm.trans (isAbortRequested_of_aborted script steps number hp)
    obtain ⟨input, called⟩ := claimed.owned _ _ _ hp own
    refine ⟨k, input, called, fun other made hmade hown => ?_, ?_⟩
    · have shown : Caller.task number ≠ .direct := by simp
      exact claimed.call_unique shown called hmade rfl hown
    · rw [unfinished, gated_iff, mem_released_iff]
      simp
  · rw [← Bool.not_eq_true]
    intro asked
    obtain ⟨step, there, again⟩ := exists_abort_of_isAbortRequested script steps asked
    exact never step there again
  · have run : s = ((start script).run before).run (⟨.abort number, settles⟩ :: after) := by
      show (start script).run steps = _
      rw [split]
      exact List.foldl_append ..
    rw [run] at unable ⊢
    exact finished_of_abort there unable
  · exact progressOf_step_release settled settles
  · refine progressOf_step_release settled settles ?_
    exact permitted.free gate (mem_released_iff.mpr released) number

/-- The release of the first gate is kept until its task arrives. The second task waits, since its
gate is never released, and the third one is aborted at its gate. -/
theorem unfinished_iff_unreleased_stored :
    let s := (start [⟨.ok (.result "1"), true⟩, ⟨.ok (.result "2"), true⟩,
        ⟨.ok (.result "3"), true⟩]).run
      ([⟨.release 0, false⟩, ⟨.release 0, false⟩, ⟨.trigger "a", true⟩, ⟨.trigger "b", false⟩,
        ⟨.trigger "c", true⟩, ⟨.abort 2, false⟩] ++ [⟨.rest, true⟩])
    s.runnable = [] ∧ s.finished[0]? ≠ some false ∧ s.finished[1]? = some false ∧
      s.finished[2]? = some true := by
  intro s
  have settled : s.runnable = [] := run_runnable_of_settles ..
  obtain ⟨waits, -, aborted, -, -⟩ := unfinished_iff_unreleased _ _ settled
  refine ⟨settled, ?_, ?_, ?_⟩
  · obtain ⟨k, -, -, only, unfinished⟩ := waits 0 (by decide +kernel) (by decide +kernel)
    obtain rfl : 0 = k := only 0 ⟨.task 0, "a"⟩ (by decide +kernel) rfl
    rw [Ne, unfinished]
    rintro ⟨-, never⟩
    exact never ⟨.release 0, false⟩ (by simp) rfl
  · obtain ⟨k, -, -, only, unfinished⟩ := waits 1 (by decide +kernel) (by decide +kernel)
    obtain rfl : 1 = k := only 1 ⟨.task 1, "b"⟩ (by decide +kernel) rfl
    exact unfinished.mpr ⟨⟨_, rfl, rfl⟩, by decide⟩
  · exact aborted [⟨.release 0, false⟩, ⟨.release 0, false⟩, ⟨.trigger "a", true⟩,
      ⟨.trigger "b", false⟩, ⟨.trigger "c", true⟩] 2 false [⟨.rest, true⟩] rfl (by decide +kernel)

end EvalConsole.Rehearsal
