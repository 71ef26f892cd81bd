/-
How far submissions answered from a script are, and what their calls come to.

* `Rehearsal.progressOf_setProgress`: setting how far a submission is concerns it only.
* `Rehearsal.call_cases` and `Rehearsal.finish_cases`: what a call and a submission that makes
  its call come to.

Design notes
------------
A submission is known by its caller, so that tasks and submissions that are waited for have
their lemmas in common. Beside each operation stand the lemmas that say what it leaves alone.
-/
import Mathlib.Tactic.Common
import EvalConsole.Rehearsal.Step

namespace EvalConsole.Rehearsal

variable {s s' : Rehearsal}

/-! ### How far a submission is -/

/-- The call whose outcome has been shown. -/
def Progress.completed? : Progress → Option Nat
  | .completed number => some number
  | _ => none

/-- The call that a submission has made. -/
def Progress.call? : Progress → Option Nat
  | .waiting number => some number
  | .released number => some number
  | .completed number => some number
  | _ => none

/-- Whether the end of a submission has been asked for. -/
def isAbortRequested (s : Rehearsal) : Caller → Bool
  | .task number => s.tasks[number]?.any Task.abortRequested
  | _ => false

@[simp]
theorem progressOf_direct : s.progressOf .direct = none := rfl

theorem progressOf_task (number : Nat) :
    s.progressOf (.task number) = s.tasks[number]?.map Task.progress := rfl

theorem progressOf_submission (number : Nat) :
    s.progressOf (.submission number) = s.submissions[number]? := rfl

/-- Setting how far a submission is concerns this submission only. -/
theorem progressOf_setProgress (caller other : Caller) (progress : Progress) :
    (s.setProgress caller progress).progressOf other =
      if caller = other then (s.progressOf other).map fun _ => progress
      else s.progressOf other := by
  cases caller with
  | task number =>
    cases other with
    | task n =>
      simp only [progressOf_task, setProgress, List.getElem?_modify, Caller.task.injEq]
      split <;> simp [Function.comp_def]
    | submission n => rfl
    | direct => rfl
  | submission number =>
    cases other with
    | task n => rfl
    | submission n =>
      simp only [progressOf_submission, setProgress, List.getElem?_set, Caller.submission.injEq]
      split
      · subst number
        -- beyond the end there is nothing to set
        split
        · rw [List.getElem?_eq_getElem ‹_›]
          rfl
        · rw [List.getElem?_eq_none (by omega)]
          rfl
      · rfl
    | direct => rfl
  | direct => cases other <;> simp [setProgress]

theorem progressOf_setProgress_self {caller : Caller} {progress : Progress}
    (h : s.progressOf caller = some progress) (next : Progress) :
    (s.setProgress caller next).progressOf caller = some next := by
  rw [progressOf_setProgress, if_pos rfl, h]
  rfl

theorem progressOf_setProgress_of_ne {caller other : Caller} (h : caller ≠ other)
    (next : Progress) : (s.setProgress caller next).progressOf other = s.progressOf other := by
  rw [progressOf_setProgress, if_neg h]

/-! ### What the operations leave alone -/

section Frames

variable (caller : Caller) (progress : Progress) (shown : Shown)

@[simp]
theorem setProgress_script : (s.setProgress caller progress).script = s.script := by
  cases caller <;> rfl

@[simp]
theorem setProgress_calls : (s.setProgress caller progress).calls = s.calls := by
  cases caller <;> rfl

@[simp]
theorem setProgress_taken : (s.setProgress caller progress).taken = s.taken := by
  cases caller <;> rfl

@[simp]
theorem setProgress_log : (s.setProgress caller progress).log = s.log := by
  cases caller <;> rfl

@[simp]
theorem setProgress_area : (s.setProgress caller progress).area = s.area := by
  cases caller <;> rfl

@[simp]
theorem setProgress_tasks_length :
    (s.setProgress caller progress).tasks.length = s.tasks.length := by
  cases caller <;> simp [setProgress]

@[simp]
theorem setProgress_submissions_length :
    (s.setProgress caller progress).submissions.length = s.submissions.length := by
  cases caller <;> simp [setProgress]

@[simp]
theorem isAbortRequested_setProgress (other : Caller) :
    (s.setProgress caller progress).isAbortRequested other = s.isAbortRequested other := by
  cases caller with
  | task number =>
    cases other with
    | task n =>
      simp only [isAbortRequested, setProgress, List.getElem?_modify]
      split <;> cases s.tasks[n]? <;> rfl
    | submission n => rfl
    | direct => rfl
  | submission number => cases other <;> rfl
  | direct => rfl

@[simp]
theorem progressOf_shows (other : Caller) :
    (s.shows shown).progressOf other = s.progressOf other := by
  cases other <;> rfl

@[simp]
theorem isAbortRequested_shows (other : Caller) :
    (s.shows shown).isAbortRequested other = s.isAbortRequested other := by
  cases other <;> rfl

end Frames

theorem getElem?_concat {α : Type} (l : List α) (a : α) (n : Nat) :
    (l ++ [a])[n]? = if n = l.length then some a else l[n]? := by
  rw [List.getElem?_append]
  rcases Nat.lt_trichotomy n l.length with hlt | rfl | hgt
  · rw [if_pos hlt, if_neg (Nat.ne_of_lt hlt)]
  · simp
  · rw [if_neg (Nat.not_lt_of_gt hgt), if_neg (Nat.ne_of_gt hgt),
      List.getElem?_eq_none (by simp; omega), List.getElem?_eq_none (Nat.le_of_lt hgt)]

/-- A new task is there and has not made its call. -/
theorem progressOf_trigger (input : String) (caller : Caller) :
    (s.trigger input).progressOf caller =
      if caller = .task s.tasks.length then some (.queued input) else s.progressOf caller := by
  cases caller with
  | task number =>
    simp only [progressOf_task, trigger, getElem?_concat, Caller.task.injEq]
    split <;> rfl
  | submission number => rfl
  | direct => rfl

/-- A new submission is there and has not made its call. -/
theorem progressOf_present (input : String) (caller : Caller) :
    (s.present input).progressOf caller =
      if caller = .submission s.submissions.length then some (.queued input)
      else s.progressOf caller := by
  cases caller with
  | task number => rfl
  | submission number =>
    simp only [progressOf_submission, present, getElem?_concat, Caller.submission.injEq]
  | direct => rfl

/-- Asking for the end of a task leaves every submission as far as it was. -/
theorem progressOf_requestAbort (task : Nat) (caller : Caller) :
    (s.requestAbort task).progressOf caller = s.progressOf caller := by
  cases caller with
  | task number =>
    simp only [progressOf_task, requestAbort, List.getElem?_modify]
    split <;> cases s.tasks[number]? <;> rfl
  | submission number => rfl
  | direct => rfl

theorem isAbortRequested_requestAbort {task : Nat} (h : task < s.tasks.length)
    (caller : Caller) :
    (s.requestAbort task).isAbortRequested caller =
      (decide (caller = .task task) || s.isAbortRequested caller) := by
  cases caller with
  | task number =>
    simp only [isAbortRequested, requestAbort, List.getElem?_modify, Caller.task.injEq]
    by_cases heq : task = number
    · subst number
      simp [List.getElem?_eq_getElem h]
    · simp [heq, Ne.symm heq]
  | submission number => rfl
  | direct => rfl

theorem isAbortRequested_trigger (input : String) (caller : Caller) :
    (s.trigger input).isAbortRequested caller = s.isAbortRequested caller := by
  cases caller with
  | task number =>
    simp only [isAbortRequested, trigger, getElem?_concat]
    split
    · rw [List.getElem?_eq_none (by omega)]
      rfl
    · rfl
  | submission number => rfl
  | direct => rfl

/-! ### Calls -/

/-- Releases and the tasks able to run are no concern of how far a submission is. -/
theorem progressOf_quiet (kept runnable : List Nat) (caller : Caller) :
    ({ s with kept, runnable } : Rehearsal).progressOf caller = s.progressOf caller := by
  cases caller <;> rfl

theorem isAbortRequested_quiet (kept runnable : List Nat) (caller : Caller) :
    ({ s with kept, runnable } : Rehearsal).isAbortRequested caller =
      s.isAbortRequested caller := by
  cases caller <;> rfl

/-- The state after a call has taken its element, with the releases that are left. -/
def claim (s : Rehearsal) (caller : Caller) (input : String) (kept : List Nat) : Rehearsal :=
  { s with calls := s.calls ++ [⟨caller, input⟩], taken := s.taken + 1, kept }

section Claim

variable (caller : Caller) (input : String) (kept : List Nat) (other : Caller)

theorem progressOf_claim :
    (s.claim caller input kept).progressOf other = s.progressOf other := by
  cases other <;> rfl

theorem isAbortRequested_claim :
    (s.claim caller input kept).isAbortRequested other = s.isAbortRequested other := by
  cases other <;> rfl

end Claim

/-- A call takes the next element and perhaps a release. -/
theorem call_cases (s : Rehearsal) (caller : Caller) (input : String) :
    ∃ goes kept, s.call caller input =
      (goes, s.claim caller input kept) := by
  rw [call, arrive]
  split
  · split
    · exact ⟨true, _, rfl⟩
    · exact ⟨false, s.kept, rfl⟩
  · exact ⟨true, s.kept, rfl⟩

/-- A submission that makes its call ends with the outcome of that call, or waits. -/
theorem finish_cases (s : Rehearsal) (caller : Caller) (input : String) :
    ∃ kept,
      s.finish caller input = (true, (s.claim caller input kept).complete caller s.taken) ∨
        s.finish caller input =
          (false, (s.claim caller input kept).setProgress caller (.waiting s.taken)) := by
  obtain ⟨goes, kept, hcall⟩ := s.call_cases caller input
  refine ⟨kept, ?_⟩
  rw [finish, hcall]
  cases goes with
  | true => exact .inl rfl
  | false => exact .inr rfl

theorem progressOf_finish {caller : Caller} {input : String}
    (h : s.progressOf caller = some (.queued input)) :
    (s.finish caller input).2.progressOf caller =
      some (if (s.finish caller input).1 then .completed s.taken
        else .waiting s.taken) := by
  obtain ⟨kept, hfinish | hfinish⟩ := s.finish_cases caller input
  · rw [hfinish]
    exact (progressOf_shows _ _).trans
      (progressOf_setProgress_self ((progressOf_claim ..).trans h) _)
  · rw [hfinish]
    exact progressOf_setProgress_self ((progressOf_claim ..).trans h) _

end EvalConsole.Rehearsal
