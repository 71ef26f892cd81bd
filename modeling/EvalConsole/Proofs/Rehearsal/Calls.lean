/-
The calls of submissions answered from a script.

* `Rehearsal.Claimed`: each call takes the script element with its number, each call of a
  submission is its own, and it has no other; `Rehearsal.Claimed.run` says that this is kept by
  a run.
* `Rehearsal.Claimed.call_unique`: the call that a submission owns is its only one.
-/
import EvalConsole.Proofs.Rehearsal.Move

namespace EvalConsole.Rehearsal

variable {s s' : Rehearsal} {action : Action}

/-- As many script elements have been asked for as there are calls, and the calls of the
submissions are their own: none has more than one. -/
structure Claimed (s : Rehearsal) : Prop where
  counted : s.taken = s.calls.length
  owned : ∀ caller progress call, s.progressOf caller = some progress →
    progress.call? = some call → ∃ input, s.calls[call]? = some ⟨caller, input⟩
  made : ∀ call ∈ s.calls, call.caller = .direct ∨
    ∃ progress, s.progressOf call.caller = some progress ∧ ∀ input, progress ≠ .queued input
  once : s.calls.Pairwise fun call other => call.caller = other.caller → call.caller = .direct

namespace Claimed

theorem start (script : List ScriptElement) : Claimed (start script) where
  counted := rfl
  owned caller progress call hp := by cases caller <;> cases hp
  made := List.forall_mem_nil _
  once := .nil

theorem congr (h : Claimed s) (hcalls : s'.calls = s.calls) (htaken : s'.taken = s.taken)
    (hprogress : ∀ caller, s'.progressOf caller = s.progressOf caller) : Claimed s' where
  counted := by
    rw [htaken, hcalls]
    exact h.counted
  owned caller progress call hp := by
    rw [hprogress] at hp
    rw [hcalls]
    exact h.owned caller progress call hp
  made call hmem := by
    rw [hcalls] at hmem
    rw [hprogress]
    exact h.made call hmem
  once := by
    rw [hcalls]
    exact h.once

/-- A submission that is new has made no call. -/
theorem opened (h : Claimed s) {caller : Caller} (hopened : Opened s caller s') :
    Claimed s' := by
  obtain ⟨input, hprogress⟩ := hopened.isQueued
  constructor
  · rw [hopened.taken, hopened.calls]
    exact h.counted
  · intro other progress call hp hc
    rw [hprogress] at hp
    rw [hopened.calls]
    split at hp
    · obtain rfl := Option.some.inj hp
      cases hc
    · exact h.owned other progress call hp hc
  · intro call hmem
    rw [hopened.calls] at hmem
    refine (h.made call hmem).imp_right ?_
    rintro ⟨progress, hp, hmade⟩
    -- the new submission was not there, so it is not the one that made the call
    refine ⟨progress, ?_, hmade⟩
    rw [hprogress, if_neg, hp]
    rintro heq
    rw [heq, hopened.isNew] at hp
    cases hp
  · rw [hopened.calls]
    exact h.once

/-- A submission keeps its call, or loses it. -/
theorem setProgress {caller : Caller} {progress next : Progress} (h : Claimed s)
    (hp : s.progressOf caller = some progress)
    (hcall : ∀ call, next.call? = some call → progress.call? = some call)
    (hnext : ∀ input, next ≠ .queued input) : Claimed (s.setProgress caller next) where
  counted := by
    rw [setProgress_taken, setProgress_calls]
    exact h.counted
  owned other q call hq hc := by
    rw [setProgress_calls]
    by_cases heq : caller = other
    · subst other
      obtain rfl := Option.some.inj ((progressOf_setProgress_self hp next).symm.trans hq)
      exact h.owned caller progress call hp (hcall call hc)
    · rw [progressOf_setProgress_of_ne heq] at hq
      exact h.owned other q call hq hc
  made call hmem := by
    rw [setProgress_calls] at hmem
    by_cases heq : caller = call.caller
    · rw [← heq]
      exact .inr ⟨next, progressOf_setProgress_self hp next, hnext⟩
    · rw [progressOf_setProgress_of_ne heq]
      exact h.made call hmem
  once := by
    rw [setProgress_calls]
    exact h.once

/-- A call is noted, and it takes one element. -/
theorem counted_claim (h : Claimed s) (caller : Caller) (input : String) (kept : List Nat) :
    (s.claim caller input kept).taken = (s.claim caller input kept).calls.length := by
  show s.taken + 1 = (s.calls ++ [_]).length
  rw [h.counted, List.length_append, List.length_singleton]

/-- A call that nobody shows belongs to no submission. -/
theorem direct (h : Claimed s) (input : String) (kept : List Nat) :
    Claimed (s.claim .direct input kept) where
  counted := h.counted_claim ..
  owned caller progress call hp hc := by
    rw [progressOf_claim] at hp
    obtain ⟨other, hother⟩ := h.owned caller progress call hp hc
    exact ⟨other, List.getElem?_append_left (List.getElem?_eq_some_iff.mp hother).1 ▸ hother⟩
  made call hmem := by
    rcases List.mem_append.mp hmem with hold | hnew
    · rw [progressOf_claim]
      exact h.made call hold
    · rw [List.mem_singleton.mp hnew]
      exact .inl rfl
  once := by
    refine List.pairwise_append.mpr
      ⟨h.once, List.pairwise_singleton .., fun call _ other hnew => ?_⟩
    rw [List.mem_singleton.mp hnew]
    exact id

/-- A submission that makes its call owns it. -/
theorem call {caller : Caller} {input : String} {next : Progress} (h : Claimed s)
    (hp : s.progressOf caller = some (.queued input)) (kept : List Nat)
    (hcall : next.call? = some s.taken) :
    Claimed ((s.claim caller input kept).setProgress caller next) := by
  have hclaim := (progressOf_claim (s := s) caller input kept caller).trans hp
  have hnext : ∀ other, next ≠ .queued other := by
    rintro other rfl
    cases hcall
  constructor
  · rw [setProgress_taken, setProgress_calls]
    exact h.counted_claim ..
  · intro other progress number hq hc
    rw [setProgress_calls]
    by_cases heq : caller = other
    · subst other
      obtain rfl := Option.some.inj ((progressOf_setProgress_self hclaim next).symm.trans hq)
      obtain rfl := Option.some.inj (hcall.symm.trans hc)
      rw [h.counted]
      exact ⟨input, List.getElem?_concat_length⟩
    · rw [progressOf_setProgress_of_ne heq, progressOf_claim] at hq
      obtain ⟨own, hown⟩ := h.owned other progress number hq hc
      exact ⟨own, List.getElem?_append_left (List.getElem?_eq_some_iff.mp hown).1 ▸ hown⟩
  · intro other hmem
    rw [setProgress_calls] at hmem
    by_cases heq : caller = other.caller
    · rw [← heq]
      exact .inr ⟨next, progressOf_setProgress_self hclaim next, hnext⟩
    · rw [progressOf_setProgress_of_ne heq, progressOf_claim]
      rcases List.mem_append.mp hmem with hold | hnew
      · exact h.made other hold
      · rw [List.mem_singleton.mp hnew] at heq
        exact absurd rfl heq
  · rw [setProgress_calls]
    refine List.pairwise_append.mpr
      ⟨h.once, List.pairwise_singleton .., fun other hold own hnew heq => ?_⟩
    rw [List.mem_singleton.mp hnew] at heq
    -- the owner of an earlier call has made it, and this one has not
    rcases h.made other hold with hdirect | ⟨progress, hq, hmade⟩
    · exact hdirect
    · rw [heq, hp] at hq
      exact absurd (Option.some.inj hq).symm (hmade input)

theorem opening (h : Claimed s) (action : Action) : Claimed (s.opening action) := by
  obtain ⟨-, hsame⟩ | ⟨caller, -, hopened⟩ := s.opening_cases action
  · rw [hsame]
    exact h
  · exact h.opened hopened

theorem complete {caller : Caller} {number : Nat}
    (h : Claimed (s.setProgress caller (.completed number))) :
    Claimed (s.complete caller number) :=
  h.congr rfl rfl fun other => progressOf_shows _ other

theorem move (h : Claimed s) (hmove : Move s action s') : Claimed s' := by
  cases hmove with
  | giveUp hp => exact h.setProgress hp nofun nofun
  | evaluate input =>
    obtain ⟨goes, kept, hcall⟩ := s.call_cases .direct input
    rw [hcall]
    exact h.direct input kept
  | release hp => exact h.setProgress hp (fun _ => id) nofun
  | requestAbort hlt => exact h.congr rfl rfl (progressOf_requestAbort _)
  | @finish _ caller input hp ha =>
    obtain ⟨kept, hfinish | hfinish⟩ := s.finish_cases caller input
    · rw [hfinish]
      exact (h.call hp kept rfl).complete
    · rw [hfinish]
      exact h.call hp kept rfl
  | @complete _ caller number hp ha =>
    have hset : Claimed (s.setProgress caller (.completed number)) :=
      h.setProgress hp (fun _ => id) nofun
    exact hset.complete
  | discard hp hpending ha => exact h.setProgress hp nofun nofun
  | quiet kept runnable => exact h.congr rfl rfl (progressOf_quiet kept runnable)

/-- The call that a submission owns has started. -/
theorem lt_taken (h : Claimed s) {caller : Caller} {progress : Progress} {call : Nat}
    (hp : s.progressOf caller = some progress) (hcall : progress.call? = some call) :
    call < s.taken := by
  obtain ⟨input, hown⟩ := h.owned caller progress call hp hcall
  rw [h.counted]
  exact (List.getElem?_eq_some_iff.mp hown).1

theorem run (h : Claimed s) (steps : List Step) : Claimed (s.run steps) :=
  run_induction (fun _ step _ hs => hs.opening step.action)
    (fun _ _ _ _ hs hmove => hs.move hmove) h

/-- A submission has no other call than the one it owns. -/
theorem call_unique (h : Claimed s) {caller : Caller} (hcaller : caller ≠ .direct)
    {number other : Nat} {call last : Call} (hcall : s.calls[number]? = some call)
    (hlast : s.calls[other]? = some last) (hown : call.caller = caller)
    (hother : last.caller = caller) : other = number := by
  obtain ⟨hn, rfl⟩ := List.getElem?_eq_some_iff.mp hcall
  obtain ⟨ho, rfl⟩ := List.getElem?_eq_some_iff.mp hlast
  have honce := List.pairwise_iff_getElem.mp h.once
  -- of two different calls the earlier one would be nobody's
  rcases Nat.lt_trichotomy other number with hlt | heq | hgt
  · exact absurd (hother ▸ honce other number ho hn hlt (hother.trans hown.symm)) hcaller
  · exact heq
  · exact absurd (hown ▸ honce number other hn ho hgt (hown.trans hother.symm)) hcaller

end Claimed

/-! ### Calls are added -/

/-- A call that has started stays where it is. -/
theorem calls_prefix_of_move (hmove : Move s action s') : s.calls <+: s'.calls := by
  rcases hmove.calls with same | ⟨input, -, made⟩ | ⟨caller, input, -, -, made⟩
  · exact same ▸ List.prefix_rfl
  · rw [made]
    exact List.prefix_append ..
  · rw [made]
    exact List.prefix_append ..

/-- No script element is asked for again. -/
theorem Claimed.taken_le (h : Claimed s) (hmove : Move s action s') : s.taken ≤ s'.taken := by
  rw [h.counted, (h.move hmove).counted]
  exact (calls_prefix_of_move hmove).length_le

end EvalConsole.Rehearsal
