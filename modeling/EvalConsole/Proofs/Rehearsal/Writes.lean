/-
The texts that submissions answered from a script show.

* `Rehearsal.share` is what a submission has shown, by how far it is.
* `Rehearsal.Accounted`: the texts shown are the shares of the submissions, and the display
  holds the last of them.
* `Rehearsal.Doomed`: the end of a submission has been asked for in time.
* `Rehearsal.writes_accounted`: the texts shown after any run.

Design notes
------------
The texts are kept with the submission that they belong to, so the account is one equation
for each caller; that of `Caller.direct` says that nothing is shown for a call without a
submission.
-/
import Mathlib.Data.List.Basic
import EvalConsole.Proofs.Rehearsal.Calls

namespace EvalConsole.Rehearsal

variable {s s' : Rehearsal} {action : Action}

/-! ### Shares -/

/-- The submission that a text belongs to. -/
def Shown.caller : Shown → Caller
  | running caller => caller
  | ended caller _ => caller

/-- What a submission has shown. -/
def share (s : Rehearsal) (caller : Caller) : List Shown :=
  match s.progressOf caller with
  | none => []
  | some progress =>
    .running caller :: (progress.completed?.map fun call => .ended caller (s.outcomeOf call)).toList

/-- The texts shown are the shares of the submissions, and the display holds the last. -/
structure Accounted (s : Rehearsal) : Prop where
  log : ∀ caller, s.log.filter (·.caller == caller) = s.share caller
  text : s.text = s.texts.getLast?.getD ""

theorem share_of_progressOf_none {caller : Caller} (h : s.progressOf caller = none) :
    s.share caller = [] := by
  rw [share, h]

theorem share_of_pending {caller : Caller} {progress : Progress}
    (h : s.progressOf caller = some progress) (hp : progress.completed? = none) :
    s.share caller = [.running caller] := by
  rw [share, h]
  simp only [hp]
  rfl

theorem share_of_completed {caller : Caller} {call : Nat}
    (h : s.progressOf caller = some (.completed call)) :
    s.share caller = [.running caller, .ended caller (s.outcomeOf call)] := by
  rw [share, h]
  rfl

theorem share_eq (caller : Caller) : s.share caller =
    match s.progressOf caller with
    | none => []
    | some (.completed call) => [.running caller, .ended caller (s.outcomeOf call)]
    | some _ => [.running caller] := by
  rw [share]
  cases s.progressOf caller with
  | none => rfl
  | some progress => cases progress <;> rfl

/-- What a submission has shown depends on how far it is and on the script. -/
theorem share_congr {caller : Caller} (hscript : s'.script = s.script)
    (hprogress : s'.progressOf caller = s.progressOf caller) :
    s'.share caller = s.share caller := by
  have houtcome : s'.outcomeOf = s.outcomeOf := by
    funext call
    rw [outcomeOf, outcomeOf, hscript]
  rw [share, share, hprogress, houtcome]

theorem filter_caller_append (log : List Shown) (shown : Shown) (caller : Caller) :
    (log ++ [shown]).filter (·.caller == caller) =
      log.filter (·.caller == caller) ++ if shown.caller = caller then [shown] else [] := by
  rw [List.filter_append, List.filter_singleton]
  by_cases h : shown.caller = caller
  · rw [beq_iff_eq.mpr h, if_pos h]
    rfl
  · rw [beq_false_of_ne h, if_neg h]
    rfl

namespace Accounted

theorem start (script : List ScriptElement) : Accounted (start script) where
  log caller := by
    have hnone : (Rehearsal.start script).progressOf caller = none := by cases caller <;> rfl
    rw [share_of_progressOf_none hnone]
    rfl
  text := rfl

/-- A change that shows nothing, and after which every submission has the same share. -/
theorem of_log_eq (h : Accounted s) (hlog : s'.log = s.log) (harea : s'.area = s.area)
    (hshare : ∀ caller, s'.share caller = s.share caller) : Accounted s' where
  log caller := by rw [hlog, hshare, h.log]
  text := by rw [Rehearsal.text, texts, harea, hlog]; exact h.text

/-- A change that shows a text, which is new in the share of its submission. -/
theorem of_log_append (h : Accounted s) (shown : Shown) (hlog : s'.log = s.log ++ [shown])
    (harea : s'.area = s.area.setText shown.text)
    (hown : s'.share shown.caller = s.share shown.caller ++ [shown])
    (hother : ∀ caller, caller ≠ shown.caller → s'.share caller = s.share caller) :
    Accounted s' where
  log caller := by
    rw [hlog, filter_caller_append, h.log]
    -- the text belongs to one submission, and the shares of the others are as before
    split
    · subst caller
      exact hown.symm
    · rename_i hne
      rw [List.append_nil, hother caller (Ne.symm hne)]
  text := by
    rw [Rehearsal.text, texts, harea, hlog, List.map_append, List.map_singleton,
      List.getLast?_concat]
    rfl

/-- A submission that does not complete is as far as another that has not. -/
theorem setProgress {caller : Caller} {progress next : Progress} (h : Accounted s)
    (hp : s.progressOf caller = some progress) (hpending : progress.completed? = none)
    (hnext : next.completed? = none) : Accounted (s.setProgress caller next) := by
  refine h.of_log_eq (setProgress_log ..) (setProgress_area ..) fun other => ?_
  by_cases heq : caller = other
  · subst other
    rw [share_of_pending hp hpending, share_of_pending (progressOf_setProgress_self hp next) hnext]
  · exact share_congr (setProgress_script ..) (progressOf_setProgress_of_ne heq next)

/-- A submission that completes shows the outcome of its call. -/
theorem complete {caller : Caller} {progress : Progress} {call : Nat} (h : Accounted s)
    (hp : s.progressOf caller = some progress) (hpending : progress.completed? = none) :
    Accounted (s.complete caller call) := by
  have hset := progressOf_setProgress_self hp (.completed call)
  refine h.of_log_append (.ended caller (s.outcomeOf call)) ?_ ?_ ?_ fun other hne => ?_
  · rw [Rehearsal.complete, shows, setProgress_log]
  · rw [Rehearsal.complete, shows, setProgress_area]
  · have hcompleted : (s.complete caller call).progressOf caller = some (.completed call) :=
      (progressOf_shows _ caller).trans hset
    show (s.complete caller call).share caller = s.share caller ++ _
    rw [share_of_pending hp hpending, share_of_completed hcompleted]
    have houtcome : (s.complete caller call).outcomeOf call = s.outcomeOf call := by
      rw [outcomeOf, outcomeOf, Rehearsal.complete, shows, setProgress_script]
    rw [houtcome]
    rfl
  · refine share_congr ?_ ?_
    · rw [Rehearsal.complete, shows, setProgress_script]
    · rw [Rehearsal.complete, progressOf_shows]
      exact progressOf_setProgress_of_ne (Ne.symm hne) _

/-- A call that starts shows nothing. -/
theorem claim (h : Accounted s) (caller : Caller) (input : String) (kept : List Nat) :
    Accounted (s.claim caller input kept) :=
  h.of_log_eq rfl rfl fun _ => share_congr rfl (progressOf_claim ..)

/-- A new submission shows that it is running. -/
theorem opened {caller : Caller} (h : Accounted s) (hopened : Opened s caller s') :
    Accounted s' := by
  obtain ⟨input, hprogress⟩ := hopened.isQueued
  refine h.of_log_append _ hopened.log hopened.area ?_ fun other hne => ?_
  · show s'.share caller = s.share caller ++ [.running caller]
    have hqueued : s'.progressOf caller = some (.queued input) := by
      rw [hprogress, if_pos rfl]
    rw [share_of_progressOf_none hopened.isNew, share_of_pending hqueued rfl]
    rfl
  · refine share_congr hopened.script ?_
    rw [hprogress]
    exact if_neg hne

theorem opening (h : Accounted s) (action : Action) : Accounted (s.opening action) := by
  obtain ⟨-, hsame⟩ | ⟨caller, -, hopened⟩ := s.opening_cases action
  · rw [hsame]
    exact h
  · exact h.opened hopened

theorem move (h : Accounted s) (hmove : Move s action s') : Accounted s' := by
  cases hmove with
  | giveUp hp => exact h.setProgress hp rfl rfl
  | evaluate input =>
    obtain ⟨goes, kept, hcall⟩ := s.call_cases .direct input
    rw [hcall]
    exact h.claim .direct input kept
  | release hp => exact h.setProgress hp rfl rfl
  | requestAbort hlt =>
    exact h.of_log_eq rfl rfl fun caller => share_congr rfl (progressOf_requestAbort _ caller)
  | @finish _ caller input hp ha =>
    obtain ⟨kept, hfinish | hfinish⟩ := s.finish_cases caller input
    · rw [hfinish]
      exact (h.claim caller input kept).complete ((progressOf_claim ..).trans hp) rfl
    · rw [hfinish]
      exact (h.claim caller input kept).setProgress ((progressOf_claim ..).trans hp) rfl rfl
  | complete hp ha => exact h.complete hp rfl
  | discard hp hpending ha => exact h.setProgress hp hpending rfl
  | quiet kept runnable =>
    exact h.of_log_eq rfl rfl fun _ => share_congr rfl (progressOf_quiet ..)

theorem run (h : Accounted s) (steps : List Step) : Accounted (s.run steps) :=
  run_induction (fun _ step _ hs => hs.opening step.action)
    (fun _ _ _ _ hs hmove => hs.move hmove) h

end Accounted

/-! ### The order of the texts -/

/-- Only outcomes have been shown since. -/
def OnlyEnds (s s' : Rehearsal) : Prop :=
  ∃ ended : List (Caller × Outcome), s'.log = s.log ++ ended.map fun e => .ended e.1 e.2

namespace OnlyEnds

theorem of_log_eq (h : s'.log = s.log) : OnlyEnds s s' :=
  ⟨[], by rw [h, List.map_nil, List.append_nil]⟩

theorem trans {s'' : Rehearsal} (h : OnlyEnds s s') (h' : OnlyEnds s' s'') : OnlyEnds s s'' := by
  obtain ⟨ended, hlog⟩ := h
  obtain ⟨more, hmore⟩ := h'
  exact ⟨ended ++ more, by rw [hmore, hlog, List.map_append, List.append_assoc]⟩

theorem complete (s : Rehearsal) (caller : Caller) (number : Nat) :
    OnlyEnds s (s.complete caller number) := by
  refine ⟨[(caller, s.outcomeOf number)], ?_⟩
  rw [Rehearsal.complete, shows, setProgress_log]
  rfl

theorem of_move (hmove : Move s action s') : OnlyEnds s s' := by
  cases hmove with
  | giveUp hp => exact of_log_eq (setProgress_log ..)
  | evaluate input =>
    obtain ⟨goes, kept, hcall⟩ := s.call_cases .direct input
    rw [hcall]
    exact of_log_eq rfl
  | release hp => exact of_log_eq (setProgress_log ..)
  | requestAbort hlt => exact of_log_eq rfl
  | @finish _ caller input hp ha =>
    obtain ⟨kept, hfinish | hfinish⟩ := s.finish_cases caller input
    · rw [hfinish]
      exact (of_log_eq rfl).trans (complete _ caller _)
    · rw [hfinish]
      exact of_log_eq (setProgress_log ..)
  | complete hp ha => exact complete s _ _
  | discard hp hpending ha => exact of_log_eq (setProgress_log ..)
  | quiet kept runnable => exact of_log_eq rfl

end OnlyEnds

theorem opening_log (action : Action) :
    (s.opening action).log = s.log ++ (s.opens action).toList.map .running := by
  obtain ⟨hopens, hsame⟩ | ⟨caller, hopens, hopened⟩ := s.opening_cases action
  · rw [hsame, hopens]
    exact (List.append_nil _).symm
  · rw [hopened.log, hopens]
    rfl

/-- A step shows first that the submission it opens is running, and then only outcomes. -/
theorem step_log (step : Step) : ∃ ended : List (Caller × Outcome),
    (s.step step).2.log = s.log ++ (s.opens step.action).toList.map .running ++
      ended.map fun e => .ended e.1 e.2 := by
  -- all that a step does after its opening are moves, and these only show outcomes
  have hends : OnlyEnds (s.opening step.action) (s.step step).2 :=
    (step_moves step).induction (fun _ _ h hmove => h.trans (.of_move hmove)) (.of_log_eq rfl)
  rw [← opening_log]
  exact hends

/-! ### Ends -/

/-- What holds of a submission that has ended holds of it after a run. -/
theorem progressOf_run_of_isEnded {caller : Caller} {progress : Progress}
    (he : progress.isEnded) (hp : (s.act action).2.progressOf caller = some progress)
    (settles : Bool) (steps : List Step) :
    (s.run (⟨action, settles⟩ :: steps)).progressOf caller = some progress := by
  refine run_cons_induction (P := fun s => s.progressOf caller = some progress)
    (fun s action h => ?_) (fun s s' action h hmove => ?_) hp settles steps
  · rcases progressOf_opening action caller with hsame | ⟨hnone, -⟩
    · exact hsame.trans h
    · cases hnone.symm.trans h
  · rcases hmove.proceeds caller with hsame | ⟨p, q, hq, hnext, hgo⟩
    · exact hsame.trans h
    · obtain rfl := Option.some.inj (hq.symm.trans h)
      rw [hnext, hgo.eq_of_isEnded he]

theorem outcomeOf_run (steps : List Step) (call : Nat) :
    (s.run steps).outcomeOf call = s.outcomeOf call := by
  rw [outcomeOf, outcomeOf, run_script]

/-- The end of a submission has been asked for before its outcome was shown. -/
def Doomed (s : Rehearsal) (caller : Caller) : Prop :=
  s.isAbortRequested caller = true ∧
    ∃ progress, s.progressOf caller = some progress ∧ progress.completed? = none

namespace Doomed

variable {caller : Caller}

theorem opening (h : Doomed s caller) (action : Action) : Doomed (s.opening action) caller := by
  obtain ⟨ha, progress, hp, hpending⟩ := h
  refine ⟨(isAbortRequested_opening action caller).trans ha, progress, ?_, hpending⟩
  rcases progressOf_opening action caller with hsame | ⟨hnone, -⟩
  · exact hsame.trans hp
  · cases hnone.symm.trans hp

theorem move (h : Doomed s caller) (hmove : Move s action s') : Doomed s' caller := by
  obtain ⟨ha, progress, hp, hpending⟩ := h
  constructor
  · rcases hmove.isAbortRequested caller with hsame | ⟨hasked, -⟩
    · exact hsame.trans ha
    · exact hasked
  · rcases hmove.proceeds caller with hsame | ⟨p, q, -, hnext, hgo⟩
    · exact ⟨progress, hsame.trans hp, hpending⟩
    · exact ⟨q, hnext, hgo.completed?_eq_none ha⟩

/-- A task that has not ended is doomed when its end is asked for. -/
theorem abort {number : Nat} (h : s.finished[number]? = some false) :
    Doomed (s.act (.abort number)).2 (.task number) := by
  rw [finished, List.getElem?_map, Option.map_eq_some_iff] at h
  obtain ⟨t, htask, hended⟩ := h
  have hlt : number < s.tasks.length := (List.getElem?_eq_some_iff.mp htask).1
  have hpending : t.progress.completed? = none := by
    cases hp : t.progress <;> rw [hp] at hended
    case completed call => cases hended
    all_goals rfl
  have hdoomed : Doomed (s.requestAbort number) (.task number) := by
    refine ⟨?_, t.progress, ?_, hpending⟩
    · rw [isAbortRequested_requestAbort hlt, decide_eq_true rfl, Bool.true_or]
    · rw [progressOf_requestAbort, progressOf_task, htask]
      rfl
  rw [act, Rehearsal.abort, htask]
  simp only [hended]
  exact Moves.induction (P := fun s => Doomed s (.task number))
    (enqueue_moves (.abort number) number) (fun _ _ h hmove => h.move hmove) hdoomed

theorem run (h : Doomed (s.act action).2 caller) (settles : Bool) (steps : List Step) :
    Doomed (s.run (⟨action, settles⟩ :: steps)) caller :=
  run_cons_induction (P := fun s => Doomed s caller) (fun _ action hs => hs.opening action)
    (fun _ _ _ hs hmove => hs.move hmove) h settles steps

theorem share (h : Doomed s caller) : s.share caller = [.running caller] := by
  obtain ⟨-, progress, hp, hpending⟩ := h
  exact share_of_pending hp hpending

end Doomed

/-- A task has ended with an outcome or without one. -/
theorem completed_or_aborted {number : Nat} (h : s.finished[number]? = some true) :
    (∃ call, s.progressOf (.task number) = some (.completed call)) ∨
      s.progressOf (.task number) = some .aborted := by
  rw [finished, List.getElem?_map, Option.map_eq_some_iff] at h
  obtain ⟨⟨progress, asked⟩, htask, hended⟩ := h
  rw [progressOf_task, htask]
  cases progress with
  | completed call => exact .inl ⟨call, rfl⟩
  | aborted => exact .inr rfl
  | queued input => cases hended
  | waiting call => cases hended
  | released call => cases hended

/-- A task ends without an outcome only if its end has been asked for. -/
theorem isAbortRequested_of_aborted (script : List ScriptElement) (steps : List Step) :
    ∀ number, ((start script).run steps).progressOf (.task number) = some .aborted →
      ((start script).run steps).isAbortRequested (.task number) = true := by
  refine run_induction (P := fun s => ∀ number, s.progressOf (.task number) = some .aborted →
    s.isAbortRequested (.task number) = true) (fun s step _ h => ?_)
    (fun s s' step _ h hmove => ?_) ?_
  · intro number hp
    rw [isAbortRequested_opening]
    rcases progressOf_opening step.action (.task number) with hsame | ⟨-, input, hqueued⟩
    · exact h number (hsame.symm.trans hp)
    · cases hqueued.symm.trans hp
  · intro number hp
    have hasked : s.isAbortRequested (.task number) = true := by
      -- a task is discarded when its end was asked for, and only a submission is given up
      rcases hmove.proceeds (.task number) with hsame | ⟨p, q, hq, hnext, hgo⟩
      · exact h number (hsame.symm.trans hp)
      · obtain rfl := Option.some.inj (hnext.symm.trans hp)
        cases hgo with
        | discard _ ha => exact ha
        | giveUp hcaller => cases hcaller
    rcases hmove.isAbortRequested (.task number) with hsame | ⟨hnow, -⟩
    · exact hsame.trans hasked
    · exact hnow
  · intro number hp
    cases hp

/-- The end of a task is asked for by a step only. -/
theorem exists_abort_of_isAbortRequested (script : List ScriptElement) (steps : List Step)
    {number : Nat} (h : ((start script).run steps).isAbortRequested (.task number) = true) :
    ∃ step ∈ steps, step.action = .abort number := by
  revert h
  refine run_induction (P := fun s => s.isAbortRequested (.task number) = true →
    ∃ step ∈ steps, step.action = .abort number) (fun s step _ h ha => ?_)
    (fun s s' step hmem h hmove ha => ?_) nofun
  · rw [isAbortRequested_opening] at ha
    exact h ha
  · rcases hmove.isAbortRequested (.task number) with hsame | ⟨-, n, hn, heq⟩
    · exact h (hsame.symm.trans ha)
    · obtain rfl := Caller.task.inj heq
      exact ⟨step, hmem, hn⟩

/-- A submission that is waited for ends with the outcome of its call or without one. -/
theorem progressOf_submit (input : String) :
    ∃ ended, (s.act (.submit input)).1 = .submitted ended ∧
      (s.act (.submit input)).2.progressOf (.submission s.submissions.length) =
        some (if ended then .completed s.taken else .aborted) := by
  rcases s.submit_cases input with ⟨hsubmit, hcompleted⟩ | ⟨hsubmit, hwaiting⟩
  · refine ⟨true, ?_, ?_⟩ <;> rw [act, hsubmit]
    exact hcompleted
  · refine ⟨false, ?_, ?_⟩ <;> rw [act, hsubmit]
    exact progressOf_setProgress_self hwaiting _

/-! ### The account -/

/-- Whether something done from outside makes a submission in the background. -/
def Action.isTrigger : Action → Bool
  | .trigger _ => true
  | _ => false

/-- Whether something done from outside makes a submission and waits for it. -/
def Action.isSubmit : Action → Bool
  | .submit _ => true
  | _ => false

theorem lengths_of_move (hmove : Move s action s') :
    s'.tasks.length = s.tasks.length ∧ s'.submissions.length = s.submissions.length := by
  cases hmove with
  | giveUp hp => exact ⟨setProgress_tasks_length .., setProgress_submissions_length ..⟩
  | evaluate input =>
    obtain ⟨goes, kept, hcall⟩ := s.call_cases .direct input
    rw [hcall]
    exact ⟨rfl, rfl⟩
  | release hp => exact ⟨setProgress_tasks_length .., setProgress_submissions_length ..⟩
  | requestAbort hlt => exact ⟨List.length_modify .., rfl⟩
  | @finish _ caller input hp ha =>
    obtain ⟨kept, hfinish | hfinish⟩ := s.finish_cases caller input
    all_goals
      rw [hfinish]
      exact ⟨setProgress_tasks_length .., setProgress_submissions_length ..⟩
  | complete hp ha => exact ⟨setProgress_tasks_length .., setProgress_submissions_length ..⟩
  | discard hp hpending ha =>
    exact ⟨setProgress_tasks_length .., setProgress_submissions_length ..⟩
  | quiet kept runnable => exact ⟨rfl, rfl⟩

/-- There is one submission for each step that makes one. -/
theorem lengths_run (steps : List Step) :
    (s.run steps).tasks.length = s.tasks.length + steps.countP (·.action.isTrigger) ∧
      (s.run steps).submissions.length =
        s.submissions.length + steps.countP (·.action.isSubmit) := by
  induction steps generalizing s with
  | nil => exact ⟨rfl, rfl⟩
  | cons step rest ih =>
    obtain ⟨htasks, hsubmissions⟩ : (s.step step).2.tasks.length =
          (s.opening step.action).tasks.length ∧ (s.step step).2.submissions.length =
          (s.opening step.action).submissions.length :=
      Moves.induction (P := fun s' => s'.tasks.length = (s.opening step.action).tasks.length ∧
          s'.submissions.length = (s.opening step.action).submissions.length)
        (step_moves step) (fun _ _ h hmove =>
          ⟨(lengths_of_move hmove).1.trans h.1, (lengths_of_move hmove).2.trans h.2⟩) ⟨rfl, rfl⟩
    rw [run_cons, ih.1, ih.2, htasks, hsubmissions, List.countP_cons, List.countP_cons]
    cases step.action <;>
      simp [opening, Rehearsal.trigger, present, shows, Action.isTrigger, Action.isSubmit] <;> omega

/-- What the submissions show over any run. A submission shows that it is running, when it is
made and before anything else happens, and then its outcome if it completes: that of the
script element that only it has claimed. One that is aborted or given up before shows no
outcome, a call without a submission shows nothing, and the display holds the last text. -/
theorem writes_accounted (script : List ScriptElement) (steps : List Step) :
    let s := (start script).run steps
    (s.tasks.length = steps.countP (·.action.isTrigger) ∧
      s.submissions.length = steps.countP (·.action.isSubmit)) ∧
    (∀ caller, s.log.filter (·.caller == caller) =
      match s.progressOf caller with
      | none => []
      | some (.completed call) => [.running caller, .ended caller (s.outcomeOf call)]
      | some _ => [.running caller]) ∧
    (∀ caller call, s.progressOf caller = some (.completed call) →
      ∃ input, s.calls[call]? = some ⟨caller, input⟩ ∧
        ∀ (other : Nat) (made : Call), s.calls[other]? = some made →
          made.caller = caller → other = call) ∧
    s.text = s.texts.getLast?.getD "" ∧
    (∀ step, ∃ ended : List (Caller × Outcome),
      (s.step step).2.log = s.log ++ (s.opens step.action).toList.map .running ++
        ended.map fun e => .ended e.1 e.2) ∧
    (∀ number, s.finished[number]? = some true →
      (∀ step ∈ steps, step.action ≠ .abort number) →
        ∃ call, s.progressOf (.task number) = some (.completed call)) ∧
    (∀ number settles more, s.finished[number]? = some false →
      (s.run (⟨.abort number, settles⟩ :: more)).log.filter (·.caller == .task number) =
        [.running (.task number)]) ∧
    ∀ input settles more, ∃ ended, (s.step ⟨.submit input, settles⟩).1 = .submitted ended ∧
      (s.run (⟨.submit input, settles⟩ :: more)).log.filter
          (·.caller == .submission s.submissions.length) =
        if ended then [.running (.submission s.submissions.length),
          .ended (.submission s.submissions.length) (s.outcomeOf s.calls.length)]
        else [.running (.submission s.submissions.length)] := by
  intro s
  have haccounted : Accounted s := (Accounted.start script).run steps
  have hclaimed : Claimed s := (Claimed.start script).run steps
  refine ⟨?_, fun caller => ?_, fun caller call hp => ?_, haccounted.text, step_log,
    fun number hended hnever => ?_, fun number settles more hpending => ?_,
    fun input settles more => ?_⟩
  · have hlengths := lengths_run (s := start script) steps
    rwa [show (start script).tasks.length = 0 from rfl, Nat.zero_add,
      show (start script).submissions.length = 0 from rfl, Nat.zero_add] at hlengths
  · exact (haccounted.log caller).trans (share_eq caller)
  · obtain ⟨input, hcall⟩ := hclaimed.owned caller _ call hp rfl
    refine ⟨input, hcall, fun other made hmade hown => ?_⟩
    refine hclaimed.call_unique ?_ hcall hmade rfl hown
    rintro rfl
    cases hp
  · rcases completed_or_aborted hended with hcompleted | haborted
    · exact hcompleted
    · -- then its end has been asked for, which takes a step
      obtain ⟨step, hmem, habort⟩ := exists_abort_of_isAbortRequested script steps
        (isAbortRequested_of_aborted script steps number haborted)
      exact absurd habort (hnever step hmem)
  · rw [(haccounted.run _).log]
    exact ((Doomed.abort hpending).run settles more).share
  · obtain ⟨ended, hreport, hp⟩ := progressOf_submit (s := s) input
    refine ⟨ended, hreport, ?_⟩
    rw [hclaimed.counted] at hp
    rw [(haccounted.run _).log]
    -- it has ended one way or the other, so the rest of the run does not concern it
    have hlast := progressOf_run_of_isEnded (by cases ended <;> rfl) hp settles more
    cases ended with
    | true =>
      rw [share_of_completed hlast, outcomeOf_run]
      rfl
    | false => exact share_of_pending hlast rfl

/-- Two tasks wait at their gates; the first is aborted after its release, the second ends. -/
example : ((start [⟨.ok (.result "1"), true⟩, ⟨.ok (.result "2"), true⟩]).run
    [⟨.trigger "a", false⟩, ⟨.trigger "b", true⟩, ⟨.release 0, false⟩, ⟨.abort 0, false⟩,
      ⟨.release 1, true⟩]).texts = [runningText, runningText, "Result: 2"] := by
  decide +kernel

end EvalConsole.Rehearsal
