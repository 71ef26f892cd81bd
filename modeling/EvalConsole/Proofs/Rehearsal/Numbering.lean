/-
The numbers of calls.

A call takes the next script element when it starts: its number is its place among the inputs
that have been seen. A step that submits and waits, or that only evaluates, makes its own call
first; all other calls are made by tasks.

* `Rehearsal.asked` is what a caller makes its calls with, by the steps of a run.
* `Rehearsal.step_calls`: the calls that a step starts.
* `Rehearsal.AtGate`: what has not completed waits, or has waited, at the gate of its element.
* `Rehearsal.InOrder` and `Rehearsal.calls_in_order`: which call takes which script element.

Design notes
------------
Calls are only ever added at the end, so the number of a call never changes, whatever becomes
of its caller. Most of what is said here follows from the moves of a step; how many calls a step
makes on its own does not, and is read off the step itself.
-/
import Mathlib.Data.Finset.Card
import Mathlib.Data.Finset.Range
import Mathlib.Data.List.Induction
import EvalConsole.Proofs.Rehearsal.Cancelled
import EvalConsole.Proofs.Rehearsal.Writes

namespace EvalConsole.Rehearsal

variable {s s' : Rehearsal} {action : Action}

/-! ### What calls are made with -/

/-- The input of a submission in the background. -/
def Action.triggered? : Action → Option String
  | .trigger input => some input
  | _ => none

/-- The input of a submission that is waited for. -/
def Action.submitted? : Action → Option String
  | .submit input => some input
  | _ => none

/-- The input of a call that nobody shows. -/
def Action.evaluated? : Action → Option String
  | .evaluate input => some input
  | _ => none

/-- The inputs that steps give to a caller, in order. -/
def asked (steps : List Step) : Caller → List String
  | .task number => (steps.filterMap (·.action.triggered?))[number]?.toList
  | .submission number => (steps.filterMap (·.action.submitted?))[number]?.toList
  | .direct => steps.filterMap (·.action.evaluated?)

/-- The inputs of the calls of a caller, in order. -/
def inputsOf (s : Rehearsal) (caller : Caller) : List String :=
  (s.calls.filter (·.caller == caller)).map Call.input

/-- The call that a step makes on its own. -/
def callOf (s : Rehearsal) : Action → Option Call
  | .submit input => some ⟨.submission s.submissions.length, input⟩
  | .evaluate input => some ⟨.direct, input⟩
  | _ => none

/-! ### Calls are added -/

/-- Calls stay where they are. -/
theorem calls_prefix_run (s : Rehearsal) (steps : List Step) : s.calls <+: (s.run steps).calls := by
  refine run_induction (P := fun s' => s.calls <+: s'.calls) (fun s' step _ h => ?_)
    (fun _ _ _ _ h hmove => h.trans (calls_prefix_of_move hmove)) List.prefix_rfl
  obtain ⟨-, same⟩ | ⟨caller, -, opened⟩ := s'.opening_cases step.action
  · rw [same]
    exact h
  · rw [opened.calls]
    exact h

/-- Only tasks have started calls since. -/
def OnlyTasks (calls calls' : List Call) : Prop :=
  ∃ made, calls' = calls ++ made ∧ ∀ call ∈ made, ∃ number, call.caller = .task number

namespace OnlyTasks

theorem refl (calls : List Call) : OnlyTasks calls calls :=
  ⟨[], (List.append_nil calls).symm, nofun⟩

theorem trans {calls calls' calls'' : List Call} (h : OnlyTasks calls calls')
    (h' : OnlyTasks calls' calls'') : OnlyTasks calls calls'' := by
  obtain ⟨made, rfl, tasks⟩ := h
  obtain ⟨more, rfl, others⟩ := h'
  refine ⟨made ++ more, List.append_assoc .., fun call hmem => ?_⟩
  rcases List.mem_append.mp hmem with first | second
  · exact tasks call first
  · exact others call second

end OnlyTasks

theorem finish_calls (caller : Caller) (input : String) :
    (s.finish caller input).2.calls = s.calls ++ [⟨caller, input⟩] := by
  obtain ⟨kept, finished | finished⟩ := s.finish_cases caller input
  · rw [finished]
    exact setProgress_calls ..
  · rw [finished]
    exact setProgress_calls ..

/-- A task that is run makes its call if it has not made it. -/
theorem Ran.calls {task : ℕ} (h : Ran s task s') : OnlyTasks s.calls s'.calls := by
  cases h with
  | idle => exact .refl _
  | @finish input hp ha =>
    refine ⟨[⟨.task task, input⟩], finish_calls .., fun call hmem => ⟨task, ?_⟩⟩
    rw [List.mem_singleton.mp hmem]
  | complete hp ha => exact .refl _
  | discard hp hpending ha => exact .refl _
  | @giveBack number hp ha =>
    rw [(keep_frame number).2.2]
    exact .refl _

theorem settle_calls (s : Rehearsal) : OnlyTasks s.calls s.settle.calls := by
  have fold (numbers : List ℕ) (s : Rehearsal) :
      OnlyTasks s.calls (numbers.foldl runTask s).calls := by
    induction numbers generalizing s with
    | nil => exact .refl _
    | cons number rest ih => exact (s.runTask_ran number).calls.trans (ih _)
  exact fold s.runnable { s with runnable := [] }

theorem release_calls (gate : ℕ) : (s.release gate).2.calls = s.calls := by
  rw [release]
  split
  · cases s.waitingAt? gate with
    | none => exact (keep_frame gate).2.2
    | some task =>
      dsimp only
      split <;> rfl
  · rfl

theorem abort_calls (task : ℕ) : (s.abort task).2.calls = s.calls := by
  rw [abort]
  cases s.tasks[task]? with
  | none => rfl
  | some t =>
    dsimp only
    split
    · rfl
    · split <;> rfl

/-- A submission that is waited for starts its call, and tasks theirs if it has to wait. -/
theorem submit_calls (input : String) :
    OnlyTasks (s.calls ++ [⟨.submission s.submissions.length, input⟩])
      (s.submit input).2.calls := by
  have made : ((s.present input).finish (.submission s.submissions.length) input).2.calls =
      s.calls ++ [⟨.submission s.submissions.length, input⟩] := finish_calls ..
  rw [← made]
  rcases s.submit_cases input with ⟨ended, -⟩ | ⟨waits, -⟩
  · rw [ended]
    exact .refl _
  · rw [waits]
    exact settle_calls _

theorem evaluate_calls (input : String) :
    OnlyTasks (s.calls ++ [⟨.direct, input⟩]) (s.evaluate input).2.calls := by
  obtain ⟨goes, kept, called⟩ := s.call_cases .direct input
  rw [evaluate, called]
  dsimp only
  split
  · exact .refl _
  · exact settle_calls _

/-- What is done from outside starts its own call first, if it has one. -/
theorem act_calls (s : Rehearsal) (action : Action) :
    OnlyTasks (s.calls ++ (s.callOf action).toList) (s.act action).2.calls := by
  have quiet {calls : List Call} (same : calls = s.calls) : OnlyTasks (s.calls ++ []) calls := by
    rw [same, List.append_nil]
    exact .refl _
  cases action with
  | trigger input => exact quiet rfl
  | submit input => exact submit_calls input
  | evaluate input => exact evaluate_calls input
  | release gate => exact quiet (release_calls gate)
  | abort task => exact quiet (abort_calls task)
  | rest => exact quiet rfl

/-- A step starts its own call first, if it has one, and then tasks start theirs. -/
theorem step_calls (s : Rehearsal) (step : Step) :
    OnlyTasks (s.calls ++ (s.callOf step.action).toList) (s.step step).2.calls := by
  rw [step_snd]
  split
  · exact (s.act_calls step.action).trans (settle_calls _)
  · exact s.act_calls step.action

/-! ### What calls are made with -/

/-- A caller in the foreground has made one call more if the step makes it. -/
theorem inputsOf_step {caller : Caller} (foreground : ∀ number, caller ≠ .task number)
    (step : Step) : (s.step step).2.inputsOf caller = s.inputsOf caller ++
      ((s.callOf step.action).toList.filter (·.caller == caller)).map Call.input := by
  obtain ⟨made, grown, tasks⟩ := s.step_calls step
  have others : made.filter (·.caller == caller) = [] := by
    rw [List.filter_eq_nil_iff]
    intro call hmem
    obtain ⟨number, own⟩ := tasks call hmem
    rw [own, beq_iff_eq]
    exact (foreground number).symm
  rw [inputsOf, inputsOf, grown, List.filter_append, others, List.append_nil, List.filter_append,
    List.map_append]

theorem filterMap_concat {α β : Type} (f : α → Option β) (l : List α) (a : α) :
    (l ++ [a]).filterMap f = l.filterMap f ++ (f a).toList := by
  rw [List.filterMap_append]
  cases h : f a <;> simp [h]

theorem inputsOf_direct (script : List ScriptElement) (steps : List Step) :
    ((start script).run steps).inputsOf .direct = asked steps .direct := by
  induction steps using List.reverseRecOn with
  | nil => rfl
  | append_singleton steps step ih =>
    have foreground : ∀ n, Caller.direct ≠ .task n := nofun
    rw [run_concat, inputsOf_step foreground, ih, asked, asked, filterMap_concat]
    congr 1
    cases step.action <;> rfl

theorem length_submissions (script : List ScriptElement) (steps : List Step) :
    ((start script).run steps).submissions.length =
      (steps.filterMap (·.action.submitted?)).length := by
  have made := (lengths_run (s := start script) steps).2
  rw [made, List.length_filterMap_eq_countP, start, List.length_nil, Nat.zero_add]
  congr 1
  funext step
  cases step.action <;> rfl

theorem inputsOf_submission (script : List ScriptElement) (steps : List Step) (number : ℕ) :
    ((start script).run steps).inputsOf (.submission number) =
      asked steps (.submission number) := by
  induction steps using List.reverseRecOn with
  | nil => rfl
  | append_singleton steps step ih =>
    have count := length_submissions script steps
    have foreground : ∀ n, Caller.submission number ≠ .task n := nofun
    rw [run_concat, inputsOf_step foreground, ih, asked, asked, filterMap_concat]
    generalize steps.filterMap (·.action.submitted?) = inputs at count ⊢
    cases step.action with
    | submit input =>
      simp only [callOf, count, Action.submitted?, Option.toList_some, getElem?_concat]
      by_cases own : number = inputs.length
      · simp [own]
      · simp [own, Ne.symm own]
    | trigger input => simp [callOf, Action.submitted?]
    | evaluate input => simp [callOf, Action.submitted?]
    | release gate => simp [callOf, Action.submitted?]
    | abort task => simp [callOf, Action.submitted?]
    | rest => simp [callOf, Action.submitted?]

/-- The tasks have been made with these inputs, and make their calls with them. -/
structure Verbatim (inputs : List String) (s : Rehearsal) : Prop where
  tasks : s.tasks.length = inputs.length
  queued : ∀ number input, s.progressOf (.task number) = some (.queued input) →
    inputs[number]? = some input
  called : ∀ number input, ⟨.task number, input⟩ ∈ s.calls → inputs[number]? = some input

namespace Verbatim

variable {inputs : List String}

theorem move (h : Verbatim inputs s) (hmove : Move s action s') : Verbatim inputs s' := by
  constructor
  · exact (lengths_of_move hmove).1.trans h.tasks
  · intro number input queued
    -- a move makes no submission queued that was not
    rcases hmove.proceeds (.task number) with same | ⟨p, q, -, next, goes⟩
    · exact h.queued number input (same.symm.trans queued)
    · obtain rfl := Option.some.inj (next.symm.trans queued)
      cases goes
  · intro number input hmem
    rcases hmove.calls with same | ⟨other, -, made⟩ | ⟨caller, other, queued, -, made⟩
    · rw [same] at hmem
      exact h.called number input hmem
    · rw [made] at hmem
      rcases List.mem_append.mp hmem with before | now
      · exact h.called number input before
      · cases List.mem_singleton.mp now
    · rw [made] at hmem
      rcases List.mem_append.mp hmem with before | now
      · exact h.called number input before
      · cases List.mem_singleton.mp now
        exact h.queued number input queued

theorem moves (h : Verbatim inputs s) (hmoves : Moves action s s') : Verbatim inputs s' :=
  hmoves.induction (fun _ _ (hs : Verbatim inputs _) hmove => hs.move hmove) h

theorem trigger (h : Verbatim inputs s) (input : String) :
    Verbatim (inputs ++ [input]) (s.trigger input) where
  tasks := by simp [Rehearsal.trigger, h.tasks]
  queued number other queued := by
    rw [progressOf_trigger, h.tasks] at queued
    rw [getElem?_concat]
    by_cases own : number = inputs.length
    · subst own
      rw [if_pos rfl] at queued ⊢
      cases queued
      rfl
    · rw [if_neg fun same => own (Caller.task.inj same)] at queued
      rw [if_neg own]
      exact h.queued number other queued
  called number other hmem := by
    have before := h.called number other hmem
    rw [List.getElem?_append_left (List.getElem?_eq_some_iff.mp before).1]
    exact before

theorem present (h : Verbatim inputs s) (input : String) : Verbatim inputs (s.present input) :=
  ⟨h.tasks, h.queued, h.called⟩

theorem step (h : Verbatim inputs s) (step : Step) :
    Verbatim (inputs ++ step.action.triggered?.toList) (s.step step).2 := by
  refine moves ?_ (step_moves step)
  cases step.action with
  | trigger input => exact h.trigger input
  | submit input => exact (List.append_nil inputs).symm ▸ h.present input
  | evaluate input => exact (List.append_nil inputs).symm ▸ h
  | release gate => exact (List.append_nil inputs).symm ▸ h
  | abort task => exact (List.append_nil inputs).symm ▸ h
  | rest => exact (List.append_nil inputs).symm ▸ h

theorem run (script : List ScriptElement) (steps : List Step) :
    Verbatim (steps.filterMap (·.action.triggered?)) ((start script).run steps) := by
  induction steps using List.reverseRecOn with
  | nil => exact ⟨rfl, nofun, nofun⟩
  | append_singleton steps step ih =>
    rw [run_concat, filterMap_concat]
    exact ih.step step

end Verbatim

theorem inputsOf_task (script : List ScriptElement) (steps : List Step) (number : ℕ) :
    ((start script).run steps).inputsOf (.task number) = asked steps (.task number) ∨
      ((start script).run steps).inputsOf (.task number) = [] := by
  have claimed : Claimed ((start script).run steps) := (Claimed.start script).run steps
  have verbatim := Verbatim.run script steps
  -- two calls of one caller would be nobody's
  have once := claimed.once.filter (·.caller == .task number)
  have own : ∀ call ∈ ((start script).run steps).calls.filter (·.caller == .task number),
      call ∈ ((start script).run steps).calls ∧ call.caller = .task number := by
    simp
  rw [inputsOf]
  generalize ((start script).run steps).calls.filter (·.caller == .task number) = made at once own ⊢
  match made with
  | [] => exact .inr rfl
  | [⟨caller, input⟩] =>
    obtain ⟨hmem, same⟩ := own _ List.mem_cons_self
    obtain rfl : caller = .task number := same
    have given := verbatim.called number input hmem
    exact .inl (by simp [asked, given])
  | first :: second :: _ =>
    have same : first.caller = second.caller :=
      (own first (by simp)).2.trans (own second (by simp)).2.symm
    have direct := (List.pairwise_cons.mp once).1 second List.mem_cons_self same
    cases (own first (by simp)).2.symm.trans direct

/-! ### How many calls have started -/

/-- The task that makes a call. -/
def Call.task? (call : Call) : Option ℕ :=
  match call.caller with
  | .task number => some number
  | _ => none

theorem Call.task?_eq_some_iff {call : Call} {number : ℕ} :
    call.task? = some number ↔ call.caller = .task number := by
  obtain ⟨caller, input⟩ := call
  cases caller <;> simp [Call.task?]

/-- The calls that no task makes are those of the steps. -/
theorem countP_foreground (script : List ScriptElement) (steps : List Step) :
    ((start script).run steps).calls.countP (·.task?.isNone) =
      (steps.filterMap (·.action.evaluated?)).length +
        (steps.filterMap (·.action.submitted?)).length := by
  induction steps using List.reverseRecOn with
  | nil => rfl
  | append_singleton steps step ih =>
    obtain ⟨made, grown, tasks⟩ := ((start script).run steps).step_calls step
    have none_made : made.countP (·.task?.isNone) = 0 := by
      rw [List.countP_eq_zero]
      intro call hmem
      obtain ⟨number, own⟩ := tasks call hmem
      rw [Call.task?_eq_some_iff.mpr own]
      simp
    rw [run_concat, grown, List.countP_append, List.countP_append, none_made, ih,
      filterMap_concat, filterMap_concat, List.length_append, List.length_append]
    cases step.action with
    | submit input => simp [callOf, Action.submitted?, Action.evaluated?, Call.task?]; omega
    | evaluate input => simp [callOf, Action.submitted?, Action.evaluated?, Call.task?]; omega
    | trigger input => rfl
    | release gate => rfl
    | abort task => rfl
    | rest => rfl

/-- The tasks that have made their calls. -/
def callers (s : Rehearsal) : Finset ℕ :=
  (Finset.range s.tasks.length).filter fun number => ∃ call ∈ s.calls, call.caller = .task number

theorem length_filterMap_task? (h : Claimed s) :
    (s.calls.filterMap Call.task?).length = s.callers.card := by
  have once : (s.calls.filterMap Call.task?).Nodup := by
    refine List.Pairwise.filterMap _ (fun call other alone number own number' own' => ?_) h.once
    rintro rfl
    rw [Call.task?_eq_some_iff] at own own'
    cases own.symm.trans (alone (own.trans own'.symm))
  rw [← List.toFinset_card_of_nodup once]
  congr 1
  ext number
  rw [List.mem_toFinset, List.mem_filterMap, callers, Finset.mem_filter, Finset.mem_range]
  constructor
  · rintro ⟨call, hmem, own⟩
    rw [Call.task?_eq_some_iff] at own
    refine ⟨?_, call, hmem, own⟩
    -- who has made a call is there
    rcases h.made call hmem with direct | ⟨progress, hp, -⟩
    · cases own.symm.trans direct
    · rw [own, progressOf_task, Option.map_eq_some_iff] at hp
      obtain ⟨t, there, -⟩ := hp
      exact (List.getElem?_eq_some_iff.mp there).1
  · rintro ⟨-, call, hmem, own⟩
    exact ⟨call, hmem, Call.task?_eq_some_iff.mpr own⟩

theorem length_seen (script : List ScriptElement) (steps : List Step) :
    ((start script).run steps).seen.length =
      (steps.filterMap (·.action.evaluated?)).length +
        (steps.filterMap (·.action.submitted?)).length +
          ((start script).run steps).callers.card := by
  rw [← length_filterMap_task? ((Claimed.start script).run steps), ← countP_foreground script,
    List.length_filterMap_eq_countP, seen, List.length_map,
    List.length_eq_countP_add_countP (·.task?.isNone)]
  congr 2
  funext call
  cases call.task? <;> rfl

/-! ### Gates -/

/-- A call that does not go on at once is at a gate. -/
theorem hasGate_of_call {caller : Caller} {input : String}
    (waits : (s.call caller input).1 = false) : s.hasGate s.taken = true := by
  by_contra open_
  have open_' : ¬ (s.startCall caller input).hasGate s.taken = true := open_
  rw [call, arrive, if_neg open_'] at waits
  cases waits

theorem finish_fst (caller : Caller) (input : String) :
    (s.finish caller input).1 = (s.call caller input).1 := by
  rw [finish]
  cases goes : (s.call caller input).1 with
  | true => rfl
  | false => rfl

/-- A call that has started has completed, or its element has a gate. -/
def AtGate (s : Rehearsal) : Prop :=
  ∀ caller progress k, s.progressOf caller = some progress → progress.call? = some k →
    progress = .completed k ∨ s.hasGate k = true

namespace AtGate

theorem congr (h : AtGate s) (script : s'.script = s.script)
    (same : ∀ caller, s'.progressOf caller = s.progressOf caller) : AtGate s' := by
  intro caller progress k hp hk
  rw [same] at hp
  rw [hasGate, script]
  exact h caller progress k hp hk

theorem setProgress (h : AtGate s) (caller : Caller) {next : Progress}
    (gated : ∀ k, next.call? = some k → next = .completed k ∨ s.hasGate k = true) :
    AtGate (s.setProgress caller next) := by
  intro other progress k hp hk
  rw [hasGate, setProgress_script]
  rw [progressOf_setProgress] at hp
  split at hp
  · obtain ⟨_, -, rfl⟩ := Option.map_eq_some_iff.mp hp
    exact gated k hk
  · exact h other progress k hp hk

theorem opened {caller : Caller} (h : AtGate s) (hopened : Opened s caller s') : AtGate s' := by
  obtain ⟨input, progressOf⟩ := hopened.isQueued
  intro other progress k hp hk
  rw [hasGate, hopened.script]
  rw [progressOf] at hp
  split at hp
  · cases hp
    cases hk
  · exact h other progress k hp hk

theorem move (h : AtGate s) (hmove : Move s action s') : AtGate s' := by
  cases hmove with
  | giveUp hp => exact h.setProgress _ nofun
  | evaluate input =>
    obtain ⟨goes, kept, called⟩ := s.call_cases .direct input
    rw [called]
    exact h.congr rfl (progressOf_claim .direct input kept)
  | @release gate task hp =>
    refine h.setProgress _ fun k hk => .inr ?_
    -- it has waited there
    rcases h _ _ k hp hk with completed | gated
    · cases completed
    · exact gated
  | requestAbort hlt => exact h.congr rfl (progressOf_requestAbort _)
  | @finish _ caller input hp ha =>
    obtain ⟨kept, finished⟩ := s.finish_cases caller input
    have claimed : AtGate (s.claim caller input kept) :=
      h.congr rfl (progressOf_claim caller input kept)
    rcases finished with finished | finished
    · rw [finished]
      have completed : AtGate (Rehearsal.setProgress _ caller (.completed s.taken)) :=
        claimed.setProgress caller fun k hk => .inl (by cases hk; rfl)
      exact completed.congr rfl fun other => progressOf_shows _ other
    · have gated : s.hasGate s.taken = true :=
        hasGate_of_call (by rw [← finish_fst, finished])
      rw [finished]
      exact claimed.setProgress caller fun k hk => .inr (by cases hk; exact gated)
  | @complete _ caller number hp ha =>
    have completed : AtGate (s.setProgress caller (.completed number)) :=
      h.setProgress caller fun k hk => .inl (by cases hk; rfl)
    exact completed.congr rfl fun other => progressOf_shows _ other
  | discard hp hpending ha => exact h.setProgress _ nofun
  | quiet kept runnable => exact h.congr rfl (progressOf_quiet kept runnable)

theorem run (script : List ScriptElement) (steps : List Step) :
    AtGate ((start script).run steps) := by
  refine run_induction (fun s step _ h => ?_) (fun _ _ _ _ (h : AtGate _) hmove => h.move hmove) ?_
  · obtain ⟨-, same⟩ | ⟨caller, -, opened⟩ := s.opening_cases step.action
    · rw [same]
      exact h
    · exact h.opened opened
  · intro caller progress k hp
    cases caller <;> cases hp

end AtGate

section Answers

variable {k : ℕ} {element : ScriptElement}

theorem outcomeOf_of_getElem? (there : s.script[k]? = some element) :
    s.outcomeOf k = element.outcome := by
  rw [outcomeOf, there]

theorem outcomeOf_of_length_le (past : s.script.length ≤ k) : s.outcomeOf k =
    .error (.transport s!"MockEvaluator: no more steps (called {k + 1} times)") := by
  rw [outcomeOf, List.getElem?_eq_none past]
  rfl

theorem hasGate_of_getElem? (there : s.script[k]? = some element) :
    s.hasGate k = element.gated := by
  rw [hasGate, there]

theorem hasGate_of_length_le (past : s.script.length ≤ k) : s.hasGate k = false := by
  rw [hasGate, List.getElem?_eq_none past]

/-- The outcome of a submission that has completed has been shown. -/
theorem Accounted.mem_log (h : Accounted s) {caller : Caller}
    (hp : s.progressOf caller = some (.completed k)) : .ended caller (s.outcomeOf k) ∈ s.log := by
  have share : s.log.filter (·.caller == caller) = _ :=
    (h.log caller).trans (share_of_completed hp)
  have shown : Shown.ended caller (s.outcomeOf k) ∈ s.log.filter (·.caller == caller) := by
    rw [share]
    simp
  exact (List.mem_filter.mp shown).1

variable {caller : Caller} {progress : Progress}

/-- A submission that has made its call has been answered by the element with this number, or
has to wait at its gate. -/
theorem AtGate.answered (h : AtGate s) (accounted : Accounted s)
    (hp : s.progressOf caller = some progress) (hk : progress.call? = some k)
    (there : s.script[k]? = some element) :
    progress = .completed k ∧ .ended caller element.outcome ∈ s.log ∨
      progress ≠ .completed k ∧ element.gated = true := by
  by_cases completed : progress = .completed k
  · subst completed
    have shown := accounted.mem_log hp
    rw [outcomeOf_of_getElem? there] at shown
    exact .inl ⟨rfl, shown⟩
  · have gated := (h caller progress k hp hk).resolve_left completed
    rw [hasGate_of_getElem? there] at gated
    exact .inr ⟨completed, gated⟩

/-- There is no gate beyond the end of the script, so nobody waits there. -/
theorem AtGate.exhausted (h : AtGate s) (accounted : Accounted s)
    (hp : s.progressOf caller = some progress) (hk : progress.call? = some k)
    (past : s.script.length ≤ k) :
    progress = .completed k ∧ .ended caller (.error (.transport
      s!"MockEvaluator: no more steps (called {k + 1} times)")) ∈ s.log := by
  rcases h caller progress k hp hk with rfl | gated
  · have shown := accounted.mem_log hp
    rw [outcomeOf_of_length_le past] at shown
    exact ⟨rfl, shown⟩
  · rw [hasGate_of_length_le past] at gated
    cases gated

/-- A call that nobody shows is answered at once, or its element has a gate. -/
theorem evaluate_fst (input : String) :
    (s.evaluate input).1 = some (s.outcomeOf s.taken) ∨
      (s.evaluate input).1 = none ∧ s.hasGate s.taken = true := by
  obtain ⟨goes, kept, called⟩ := s.call_cases .direct input
  cases goes with
  | true =>
    rw [evaluate, called]
    exact .inl rfl
  | false =>
    have gated : s.hasGate s.taken = true := hasGate_of_call (by rw [called])
    rw [evaluate, called]
    exact .inr ⟨rfl, gated⟩

theorem evaluate_of_getElem? (input : String)
    (there : s.script[s.taken]? = some element) :
    (s.evaluate input).1 = some element.outcome ∨
      (s.evaluate input).1 = none ∧ element.gated = true := by
  rw [← outcomeOf_of_getElem? there, ← hasGate_of_getElem? there]
  exact evaluate_fst input

theorem evaluate_of_length_le (input : String) (past : s.script.length ≤ s.taken) :
    (s.evaluate input).1 = some (.error (.transport
      s!"MockEvaluator: no more steps (called {s.taken + 1} times)")) := by
  rw [← outcomeOf_of_length_le past]
  rcases evaluate_fst (s := s) input with answer | ⟨-, gated⟩
  · exact answer
  · rw [hasGate_of_length_le past] at gated
    cases gated

end Answers

/-- A call that has started belongs to its caller for as long as this has not been aborted. -/
theorem Claimed.call?_of_getElem? (h : Claimed s) {caller : Caller} {input : String} {k : ℕ}
    (made : s.calls[k]? = some ⟨caller, input⟩) (shown : caller ≠ .direct) :
    ∃ progress, s.progressOf caller = some progress ∧
      (progress.call? = some k ∨ progress = .aborted) := by
  rcases h.made _ (List.mem_of_getElem? made) with direct | ⟨progress, hp, called⟩
  · exact absurd direct shown
  · refine ⟨progress, hp, ?_⟩
    have number (other : ℕ) (hother : progress.call? = some other) : progress.call? = some k := by
      obtain ⟨own, hown⟩ := h.owned caller progress other hp hother
      rw [hother, h.call_unique shown made hown rfl rfl]
    cases progress with
    | queued input => exact absurd rfl (called input)
    | waiting other => exact .inl (number other rfl)
    | released other => exact .inl (number other rfl)
    | completed other => exact .inl (number other rfl)
    | aborted => exact .inr rfl

/-- Which call takes which script element. -/
structure InOrder (script : List ScriptElement) (steps : List Step) (s : Rehearsal) : Prop where
  /-- The number of a call is the place of its input among those that have been seen. -/
  seen : ∀ (k : ℕ) call, s.calls[k]? = some call → s.seen[k]? = some call.input
  /-- As many script elements have been asked for as inputs have been seen. -/
  counted : s.taken = s.seen.length
  /-- Every step that submits and waits or that evaluates has made one call, and so has each of
  the tasks that have made theirs; nothing else has been seen. -/
  count : s.seen.length = (steps.filterMap (·.action.evaluated?)).length +
    (steps.filterMap (·.action.submitted?)).length + s.callers.card
  /-- Calls are made with what was given to their callers. -/
  verbatim : ∀ caller, s.inputsOf caller = asked steps caller ∨
    (∃ number, caller = .task number) ∧ s.inputsOf caller = []
  /-- A call that has started is that of its caller, unless this has been aborted. -/
  caller : ∀ (k : ℕ) call, s.calls[k]? = some call → call.caller ≠ .direct →
    ∃ progress, s.progressOf call.caller = some progress ∧
      (progress.call? = some k ∨ progress = .aborted)
  /-- A submission that has made its call is the only one that has the number of this call. -/
  once : ∀ caller progress k, s.progressOf caller = some progress → progress.call? = some k →
    (∃ input, s.calls[k]? = some ⟨caller, input⟩) ∧
      ∀ other q, s.progressOf other = some q → q.call? = some k → other = caller
  /-- It has been answered by the element with this number, or has to wait at its gate. -/
  answered : ∀ caller progress k element, s.progressOf caller = some progress →
    progress.call? = some k → script[k]? = some element →
      progress = .completed k ∧ .ended caller element.outcome ∈ s.log ∨
        progress ≠ .completed k ∧ element.gated = true
  /-- Beyond the end of the script it has been told how many calls there have been. -/
  exhausted : ∀ caller progress k, s.progressOf caller = some progress →
    progress.call? = some k → script.length ≤ k →
      progress = .completed k ∧ .ended caller (.error (.transport
        s!"MockEvaluator: no more steps (called {k + 1} times)")) ∈ s.log
  /-- A step makes its own call first, if it has one, and all others are made by tasks. -/
  next : ∀ step, ∃ made,
    (s.step step).2.calls = s.calls ++ (s.callOf step.action).toList ++ made ∧
      ∀ call ∈ made, ∃ number, call.caller = .task number
  /-- So a call that nobody shows is answered by the next element, or has to wait at its gate. -/
  evaluated : ∀ input settles element, script[s.seen.length]? = some element →
    (s.step ⟨.evaluate input, settles⟩).1 = .evaluated (some element.outcome) ∨
      (s.step ⟨.evaluate input, settles⟩).1 = .evaluated none ∧ element.gated = true
  /-- Beyond the end of the script it is told how many calls there have been. -/
  evaluated_exhausted : ∀ input settles, script.length ≤ s.seen.length →
    (s.step ⟨.evaluate input, settles⟩).1 = .evaluated (some (.error (.transport
      s!"MockEvaluator: no more steps (called {s.seen.length + 1} times)")))
  /-- Calls keep their numbers, whatever becomes of their callers. -/
  kept : ∀ more, s.calls <+: (s.run more).calls
  /-- A task that is aborted before it has been run makes no call, and all others are made as if
  it were not there. -/
  cancelled : ∀ number input settles more,
    s.progressOf (.task number) = some (.queued input) →
      (∀ call ∈ (s.run (⟨.abort number, settles⟩ :: more)).calls, call.caller ≠ .task number) ∧
      (s.run (⟨.abort number, settles⟩ :: more)).calls =
        ((s.without number).run (⟨.rest, settles⟩ :: more)).calls

/-- Script elements are taken once and in the order of the calls, after any run. -/
theorem calls_in_order (script : List ScriptElement) (steps : List Step) :
    InOrder script steps ((start script).run steps) := by
  have claimed : Claimed ((start script).run steps) := (Claimed.start script).run steps
  have accounted : Accounted ((start script).run steps) := (Accounted.start script).run steps
  have atGate : AtGate ((start script).run steps) := AtGate.run script steps
  have same_script : ((start script).run steps).script = script := run_script _ steps
  have counted : ((start script).run steps).taken = ((start script).run steps).seen.length := by
    rw [claimed.counted]
    exact (List.length_map ..).symm
  constructor
  case seen =>
    intro k call made
    rw [seen, List.getElem?_map, made]
    rfl
  case counted => exact counted
  case count => exact length_seen script steps
  case verbatim =>
    intro caller
    cases caller with
    | direct => exact .inl (inputsOf_direct script steps)
    | submission number => exact .inl (inputsOf_submission script steps number)
    | task number =>
      exact (inputsOf_task script steps number).imp_right fun none => ⟨⟨number, rfl⟩, none⟩
  case caller => exact fun k call made => claimed.call?_of_getElem? made
  case once =>
    intro caller progress k hp hk
    refine ⟨claimed.owned caller progress k hp hk, fun other q hq again => ?_⟩
    obtain ⟨_, made⟩ := claimed.owned caller progress k hp hk
    obtain ⟨_, made'⟩ := claimed.owned other q k hq again
    cases made.symm.trans made'
    rfl
  case answered =>
    intro caller progress k element hp hk there
    rw [← same_script] at there
    exact atGate.answered accounted hp hk there
  case exhausted =>
    intro caller progress k hp hk past
    rw [← same_script] at past
    exact atGate.exhausted accounted hp hk past
  case next => exact step_calls _
  case evaluated =>
    intro input settles element there
    have element_there : ((start script).run steps).script[
        ((start script).run steps).taken]? = some element := by
      rw [same_script, counted]
      exact there
    rcases evaluate_of_getElem? input element_there with answer | ⟨waits, gated⟩
    · exact .inl (congrArg Report.evaluated answer)
    · exact .inr ⟨congrArg Report.evaluated waits, gated⟩
  case evaluated_exhausted =>
    intro input settles past
    have script_past : ((start script).run steps).script.length ≤
        ((start script).run steps).taken := by
      rw [same_script, counted]
      exact past
    rw [← counted]
    exact congrArg Report.evaluated (evaluate_of_length_le input script_past)
  case kept => exact calls_prefix_run _
  case cancelled =>
    intro number input settles more queued
    obtain ⟨cancelled, same⟩ := run_abort_of_queued claimed queued settles more
    refine ⟨cancelled.silent, ?_⟩
    rw [← same]
    rfl

/-- The first task is aborted before it has been run. The second one takes the only element, and
the calls behind it are beyond the end of the script. -/
example : ((start [⟨.ok (.result "1"), true⟩]).run [⟨.trigger "a", false⟩, ⟨.abort 0, false⟩,
      ⟨.trigger "b", true⟩, ⟨.submit "c", true⟩, ⟨.evaluate "d", true⟩]).calls =
    [⟨.task 1, "b"⟩, ⟨.submission 0, "c"⟩, ⟨.direct, "d"⟩] := by
  decide +kernel

end EvalConsole.Rehearsal
