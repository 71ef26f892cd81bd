/-
Submissions that are answered at once show the same, whichever way they are made.

A submission that is waited for makes its call where it is made. One in the background is shown to be
running, and its call is made when the tasks are run. When no other task is able to run and the next
call goes on at once, because its element has no gate, because its gate keeps a release or because
the script is at its end, there is no difference to be seen between the two.

* `Rehearsal.finish_of_ready`: what a submission comes to whose call goes on at once.
* `Rehearsal.submit_of_ready` and `Rehearsal.settle_trigger_of_ready`: the states after both.
* `Rehearsal.submit_shows_as_trigger`: what these have in common.

Design notes
------------
The gate of the next call is looked at before the call has a caller, so that both submissions use the
same lemma. Tasks that wait are not looked at at all: only the new task is run.
-/
import EvalConsole.Proofs.Rehearsal.LastResponse

namespace EvalConsole.Rehearsal

variable {s : Rehearsal} {caller : Caller} {input : String}

/-- The next call goes on at once: if its element has a gate, this keeps a release. -/
def Ready (s : Rehearsal) : Prop :=
  s.hasGate s.taken = true → s.taken ∈ s.kept

/-- The state after the next call has gone on at once. A release that was meant for it is used up. -/
def answered (s : Rehearsal) (caller : Caller) (input : String) : Rehearsal :=
  s.claim caller input (if s.hasGate s.taken then s.kept.filter (· != s.taken) else s.kept)

theorem ready_iff : Ready s ↔ ∀ element, s.script[s.taken]? = some element →
    element.gated = true → s.taken ∈ s.kept := by
  rw [Ready, hasGate]
  cases s.script[s.taken]? <;> simp

theorem call_of_ready (h : Ready s) (caller : Caller) (input : String) :
    s.call caller input = (true, s.answered caller input) := by
  have gate : (s.startCall caller input).hasGate s.taken = s.hasGate s.taken := rfl
  have kept : (s.startCall caller input).kept = s.kept := rfl
  rw [call, arrive, gate, kept, answered]
  by_cases gated : s.hasGate s.taken = true
  · rw [if_pos gated, if_pos (h gated), if_pos gated]
    rfl
  · rw [if_neg gated, if_neg gated]
    rfl

/-- A submission whose call goes on at once shows the outcome of this call. -/
theorem finish_of_ready (h : Ready s) (caller : Caller) (input : String) :
    s.finish caller input =
      (true, (s.answered caller input).complete caller s.taken) := by
  rw [finish, call_of_ready h]
  rfl

/-- A submission that is waited for ends without waiting. -/
theorem submit_of_ready (h : Ready s) (input : String) : s.submit input =
    (true, ((s.present input).answered (.submission s.submissions.length) input).complete
      (.submission s.submissions.length) s.taken) := by
  have ready : Ready (s.present input) := h
  rw [submit, finish_of_ready ready]
  rfl

/-- When no other task is able to run, a submission in the background ends when the tasks are run. -/
theorem settle_trigger_of_ready (h : Ready s) (idle : s.runnable = []) (input : String) :
    (s.trigger input).settle =
      (({ s.trigger input with runnable := [] } : Rehearsal).answered
        (.task s.tasks.length) input).complete (.task s.tasks.length) s.taken := by
  have ready : Ready { s.trigger input with runnable := [] } := h
  have able : (s.trigger input).runnable = [s.tasks.length] := by
    show s.runnable ++ [s.tasks.length] = _
    rw [idle, List.nil_append]
  have queued : ({ s.trigger input with runnable := [] } : Rehearsal).tasks[s.tasks.length]? =
      some ⟨.queued input, false⟩ := List.getElem?_concat_length
  rw [settle, able, List.foldl_cons, List.foldl_nil, runTask_of_queued queued,
    finish_of_ready ready]
  rfl

/-- A submission that is waited for and one in the background show the same when the next call goes
on at once: when its element has no gate, when its gate keeps a release, and when the script is at
its end. The first one ends, and so does the second one when the tasks are run. The text shown and
all texts before are the same after both, and so are what the calls have seen, the elements that the
script still holds and the releases that are kept. Neither changes a task that has been there. -/
theorem submit_shows_as_trigger (script : List ScriptElement) (steps : List Step)
    (settled : ((start script).run steps).runnable = [])
    (ready : ∀ element, script[((start script).run steps).seen.length]? = some element →
      element.gated = true →
        ((start script).run steps).seen.length ∈ ((start script).run steps).kept)
    (input : String) (settles : Bool) :
    let s := (start script).run steps
    let submitted := (s.step ⟨.submit input, settles⟩).2
    let triggered := (s.step ⟨.trigger input, true⟩).2
    (s.step ⟨.submit input, settles⟩).1 = .submitted true ∧
    submitted.text = triggered.text ∧ submitted.texts = triggered.texts ∧
    submitted.seen = triggered.seen ∧
    submitted.script.drop submitted.seen.length = triggered.script.drop triggered.seen.length ∧
    submitted.kept = triggered.kept ∧
    submitted.tasks = s.tasks ∧
    triggered.tasks = s.tasks ++ [⟨.completed s.seen.length, false⟩] ∧
    triggered.finished[s.tasks.length]? = some true := by
  intro s submitted triggered
  have count : s.seen.length = s.taken := by
    rw [((Claimed.start script).run steps).counted]
    exact List.length_map ..
  have goes : Ready s := by
    rw [ready_iff, run_script, ← count]
    exact ready
  have submit := submit_of_ready goes input
  have submitted_eq : submitted =
      ((s.present input).answered (.submission s.submissions.length) input).complete
        (.submission s.submissions.length) s.taken := by
    have act : (s.act (.submit input)).2 = (s.submit input).2 := rfl
    show (s.step ⟨.submit input, settles⟩).2 = _
    rw [step_snd, act, submit]
    split
    · exact settle_of_runnable_eq_nil settled
    · rfl
  have triggered_eq : triggered =
      (({ s.trigger input with runnable := [] } : Rehearsal).answered
        (.task s.tasks.length) input).complete (.task s.tasks.length) s.taken :=
    settle_trigger_of_ready goes settled input
  have tasks : triggered.tasks = s.tasks ++ [⟨.completed s.seen.length, false⟩] := by
    rw [triggered_eq, count]
    exact modify_append_cons s.tasks [] ⟨.queued input, false⟩ _
  have seen : submitted.seen = triggered.seen := by
    rw [submitted_eq, triggered_eq]
    simp [Rehearsal.seen, complete, shows, answered, claim, present, trigger]
  have texts : submitted.texts = triggered.texts := by
    rw [submitted_eq, triggered_eq]
    simp [Rehearsal.texts, complete, shows, answered, claim, present, trigger, Shown.text,
      outcomeOf]
  have same_script : submitted.script = triggered.script := by
    rw [submitted_eq, triggered_eq]
    rfl
  refine ⟨?_, ?_, texts, seen, ?_, ?_, ?_, tasks, ?_⟩
  · show Report.submitted (s.submit input).1 = _
    rw [submit]
  · rw [submitted_eq, triggered_eq]
    rfl
  · rw [seen, same_script]
  · rw [submitted_eq, triggered_eq]
    rfl
  · rw [submitted_eq]
    rfl
  · rw [finished, tasks]
    simp [Progress.isEnded]

/-- A task waits at the first gate, and the second one keeps a release. -/
theorem submit_shows_as_trigger_stored :
    let s := (start [⟨.ok (.result "1"), true⟩, ⟨.ok (.error "2"), true⟩]).run
      [⟨.trigger "a", true⟩, ⟨.release 1, true⟩]
    let submitted := (s.step ⟨.submit "b", false⟩).2
    let triggered := (s.step ⟨.trigger "b", true⟩).2
    s.tasks = [⟨.waiting 0, false⟩] ∧ s.kept = [1] ∧
      submitted.texts = [runningText, runningText, "Error: 2"] ∧
      submitted.texts = triggered.texts ∧ submitted.seen = triggered.seen ∧
      submitted.kept = triggered.kept ∧ submitted.tasks = s.tasks ∧
      triggered.tasks = s.tasks ++ [⟨.completed 1, false⟩] := by
  intro s submitted triggered
  have settled : s.runnable = [] := by decide +kernel
  have stored : s.seen.length ∈ s.kept := by decide +kernel
  obtain ⟨-, -, texts, seen, -, kept, unchanged, tasks, -⟩ :=
    submit_shows_as_trigger _ _ settled (fun _ _ _ => stored) "b" false
  exact ⟨by decide +kernel, by decide +kernel, by decide +kernel, texts, seen, kept, unchanged, tasks⟩

end EvalConsole.Rehearsal
