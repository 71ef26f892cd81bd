/-
The last response wins.

When the tasks wait at their gates, each release makes one of them able to run, and the tasks
are run in the order of the releases, whether they are run behind each of them or several
together. So the outcomes are shown in that order, and the last of them stays on the display,
whichever submission it belongs to.

* `Rehearsal.run_in_batches`: steps that make one task after the other able to run.
* `Rehearsal.Gathered`: submissions have been made, and some of their tasks wait at their gates.
* `Rehearsal.Answering`: all wait, but for those whose gates have been released.
* `Rehearsal.last_response_shown`: what is shown for any order of the releases.

Design notes
------------
In both phases the state is described by two lists: what has been run and what is able to
run. Which of the two a submission or a gate is in depends on when the tasks are run; the first
list followed by the second one does not, and this is what the theorem is about.
-/
import Mathlib.Data.Fin.VecNotation
import Mathlib.Data.List.FinRange
import Mathlib.Data.List.Induction
import Mathlib.Logic.Equiv.Basic
import EvalConsole.Proofs.Rehearsal.Writes

namespace EvalConsole.Rehearsal

variable {s : Rehearsal} {n : ℕ} {script : List ScriptElement} {outcomes : Fin n → Outcome}

/-! ### Tasks that are run -/

theorem runTask_of_queued {task : ℕ} {input : String}
    (h : s.tasks[task]? = some ⟨.queued input, false⟩) :
    s.runTask task = (s.finish (.task task) input).2 := by
  rw [runTask, h]
  rfl

theorem runTask_of_released {task call : ℕ} (h : s.tasks[task]? = some ⟨.released call, false⟩) :
    s.runTask task = s.complete (.task task) call := by
  rw [runTask, h]
  rfl

/-- A submission whose call arrives at a gate without a release waits there. -/
theorem finish_of_gated (caller : Caller) (input : String)
    (gated : s.hasGate s.taken = true) (unreleased : s.taken ∉ s.kept) :
    s.finish caller input =
      (false, (s.startCall caller input).setProgress caller (.waiting s.taken)) := by
  have held : s.call caller input = (false, s.startCall caller input) := by
    have gated' : (s.startCall caller input).hasGate s.taken = true := gated
    have unreleased' : s.taken ∉ (s.startCall caller input).kept := unreleased
    rw [call, arrive, if_pos gated', if_neg unreleased']
  rw [finish, held]
  rfl

/-! ### Steps and the tasks that they make able to run -/

/-- Steps from outside are done for one thing after the other. What is kept of the things is a
first list, of those whose tasks have been run, and a second one, of those whose tasks are able
to run: a step from outside adds its thing to the second list, and running the tasks moves all
of it to the end of the first. Behind a step that runs the tasks the second list is empty. -/
theorem run_in_batches {α : Type} {all : List α} {action : α → Action}
    {P : List α → List α → Rehearsal → Prop}
    (add : ∀ done pending a s, done ++ (pending ++ [a]) <+: all → P done pending s →
      P done (pending ++ [a]) (s.act (action a)).2)
    (settle : ∀ done pending s, done ++ pending <+: all → P done pending s →
      P (done ++ pending) [] s.settle)
    (h : P [] [] s) {steps : List Step} (acts : steps.map Step.action = all.map action) :
    ∃ done pending, done ++ pending = all ∧ P done pending (s.run steps) ∧
      ((∀ step ∈ steps.getLast?, step.settles = true) → pending = []) := by
  -- by induction on the steps from the end, for the things of all steps before
  suffices batches : ∀ first, first <+: all → steps.map Step.action = first.map action →
      ∃ done pending, done ++ pending = first ∧ P done pending (s.run steps) ∧
        ((∀ step ∈ steps.getLast?, step.settles = true) → pending = []) from
    batches all List.prefix_rfl acts
  clear acts
  induction steps using List.reverseRecOn with
  | nil =>
    intro first _ acts
    obtain rfl : first = [] := by simpa using acts.symm
    exact ⟨[], [], rfl, h, fun _ => rfl⟩
  | append_singleton steps step ih =>
    intro first within acts
    rw [List.map_append] at acts
    obtain ⟨before, last, rfl, earlier, now⟩ := List.append_eq_map_iff.mp acts
    obtain ⟨a, rfl, same⟩ := List.map_eq_singleton_iff.mp now
    obtain ⟨done, pending, rfl, reached, -⟩ :=
      ih before ((List.prefix_append ..).trans within) earlier.symm
    rw [List.append_assoc] at within ⊢
    have added := add done pending a _ within reached
    rw [run_concat, step_snd, ← same]
    by_cases settles : step.settles = true
    · rw [if_pos settles]
      exact ⟨_, [], List.append_nil _, settle _ _ _ within added, fun _ => rfl⟩
    · rw [if_neg settles]
      refine ⟨done, pending ++ [a], rfl, added, fun last => ?_⟩
      exact absurd (last step (by simp)) settles

/-! ### Submissions are made -/

theorem modify_append_cons {α : Type} (l r : List α) (a : α) (f : α → α) :
    (l ++ a :: r).modify l.length f = l ++ f a :: r := by
  induction l with
  | nil => rfl
  | cons b l ih => simpa using ih

/-- A script that starts with gates. -/
def StartsGated (script : List ScriptElement) (outcomes : Fin n → Outcome) : Prop :=
  ∀ i : Fin n, script[i.val]? = some ⟨outcomes i, true⟩

theorem hasGate_of_startsGated (gated : StartsGated script outcomes) (h : s.script = script)
    (call : Fin n) : s.hasGate call = true := by
  rw [hasGate, h, gated]

theorem outcomeOf_of_startsGated (gated : StartsGated script outcomes) (h : s.script = script)
    (call : Fin n) : s.outcomeOf call = outcomes call := by
  rw [outcomeOf, h, gated]

/-- Submissions with these inputs have been made: the tasks of the first ones wait at the gates
of their calls, and the others have not been run yet. -/
structure Gathered (script : List ScriptElement) (waiting queued : List String) (s : Rehearsal) :
    Prop where
  script : s.script = script
  kept : s.kept = []
  taken : s.taken = waiting.length
  tasks : s.tasks = (List.range waiting.length).map (fun call => ⟨.waiting call, false⟩) ++
    queued.map fun input => ⟨.queued input, false⟩
  seen : s.seen = waiting
  texts : s.texts = List.replicate (waiting.length + queued.length) runningText

namespace Gathered

variable {waiting queued : List String} {input : String}

theorem start (script : List ScriptElement) : Gathered script [] [] (start script) :=
  ⟨rfl, rfl, rfl, rfl, rfl, rfl⟩

theorem trigger (h : Gathered script waiting queued s) (input : String) :
    Gathered script waiting (queued ++ [input]) (s.trigger input) where
  script := h.script
  kept := h.kept
  taken := h.taken
  tasks := by simp [Rehearsal.trigger, shows, h.tasks]
  seen := h.seen
  texts := by
    have shown : (s.trigger input).texts = s.texts ++ [runningText] := by
      simp [Rehearsal.trigger, Rehearsal.texts, shows, Shown.text]
    rw [shown, h.texts, List.length_append, ← Nat.add_assoc]
    exact List.replicate_succ'.symm

/-- The first task that has not been run makes its call and waits. -/
theorem runTask (h : Gathered script waiting (input :: queued) s)
    (gated : s.hasGate waiting.length = true) :
    Gathered script (waiting ++ [input]) queued (s.runTask waiting.length) := by
  have next : s.tasks[waiting.length]? = some ⟨.queued input, false⟩ := by
    simp [h.tasks]
  have unreleased : s.taken ∉ s.kept := by simp [h.kept]
  rw [runTask_of_queued next, finish_of_gated _ input (h.taken ▸ gated) unreleased, h.taken]
  constructor
  · exact h.script
  · exact h.kept
  · show s.taken + 1 = (waiting ++ [input]).length
    rw [h.taken, List.length_append, List.length_singleton]
  · have here := modify_append_cons
      ((List.range waiting.length).map fun call => (⟨.waiting call, false⟩ : Task))
      (queued.map fun input => ⟨.queued input, false⟩) ⟨.queued input, false⟩
      fun t => { t with progress := .waiting waiting.length }
    rw [List.length_map, List.length_range] at here
    simpa [setProgress, startCall, h.tasks, List.range_succ] using here
  · simp [Rehearsal.seen, startCall, ← h.seen]
  · have shown : s.texts = _ := h.texts
    rw [List.length_cons] at shown
    simpa [Rehearsal.texts, startCall, Nat.add_right_comm, Nat.add_assoc] using shown

/-- All tasks that have not been run make their calls and wait. -/
theorem foldl_runTask (gated : StartsGated script outcomes)
    (h : Gathered script waiting queued s) (bound : waiting.length + queued.length ≤ n) :
    Gathered script (waiting ++ queued) []
      ((List.range' waiting.length queued.length).foldl Rehearsal.runTask s) := by
  induction queued generalizing waiting s with
  | nil => simpa using h
  | cons input queued ih =>
    rw [List.length_cons] at bound
    have hasGate := hasGate_of_startsGated gated h.script ⟨waiting.length, by omega⟩
    have rest := ih (h.runTask hasGate) (by simp; omega)
    simpa [List.range'_succ] using rest

/-- Running the tasks makes the calls of all that have not been run. -/
theorem settle (h : Gathered script waiting queued s) (gated : StartsGated script outcomes)
    (runnable : s.runnable = List.range' waiting.length queued.length)
    (bound : waiting.length + queued.length ≤ n) :
    Gathered script (waiting ++ queued) [] s.settle := by
  have taken : Gathered script waiting queued { s with runnable := [] } :=
    ⟨h.script, h.kept, h.taken, h.tasks, h.seen, h.texts⟩
  rw [Rehearsal.settle, runnable]
  exact taken.foldl_runTask gated bound

theorem runnable_trigger (h : Gathered script waiting queued s)
    (runnable : s.runnable = List.range' waiting.length queued.length) (input : String) :
    (s.trigger input).runnable = List.range' waiting.length (queued ++ [input]).length := by
  have count : s.tasks.length = waiting.length + queued.length := by
    simp [h.tasks]
  rw [Rehearsal.trigger, runnable, count, List.length_append, List.length_singleton,
    List.range'_1_concat]

/-- While submissions are made and the tasks are run from time to time, those that have been run
wait at their gates. Behind a step that runs the tasks, all of them do. -/
theorem run (gated : StartsGated script outcomes) {inputs : List String} {steps : List Step}
    (made : steps.map Step.action = inputs.map .trigger) (bound : inputs.length ≤ n) :
    ∃ waiting queued, waiting ++ queued = inputs ∧
      (Gathered script waiting queued ((Rehearsal.start script).run steps) ∧
        ((Rehearsal.start script).run steps).runnable =
          List.range' waiting.length queued.length) ∧
      ((∀ step ∈ steps.getLast?, step.settles = true) → queued = []) := by
  refine run_in_batches (P := fun waiting queued s => Gathered script waiting queued s ∧
    s.runnable = List.range' waiting.length queued.length) ?_ ?_ ⟨start script, rfl⟩ made
  · rintro waiting queued input s - ⟨h, runnable⟩
    exact ⟨h.trigger input, h.runnable_trigger runnable input⟩
  · rintro waiting queued s within ⟨h, runnable⟩
    have few := within.length_le
    rw [List.length_append] at few
    exact ⟨h.settle gated runnable (few.trans bound), settle_runnable⟩

end Gathered

/-! ### Gates are released -/

/-- How far a task is of which it is known whether it has been run since its release. -/
def stage (done pending : List (Fin n)) (task : Fin n) : Progress :=
  if task ∈ done then .completed task else if task ∈ pending then .released task
  else .waiting task

/-- All tasks have made their calls. Those whose gates have been released and that have been
run since are completed; others have been released and not been run. -/
structure Answering (script : List ScriptElement) (outcomes : Fin n → Outcome)
    (inputs : List String) (done pending : List (Fin n)) (s : Rehearsal) : Prop where
  script : s.script = script
  tasks : s.tasks = List.ofFn fun task => ⟨stage done pending task, false⟩
  seen : s.seen = inputs
  texts : s.texts = List.replicate n runningText ++ done.map fun task => (outcomes task).render

/-- When all tasks wait, the first gate can be released. -/
theorem Gathered.answering {inputs : List String} (h : Gathered script inputs [] s)
    (size : inputs.length = n) : Answering script outcomes inputs [] [] s where
  script := h.script
  tasks := by
    subst size
    rw [h.tasks]
    apply List.ext_getElem <;> simp [stage]
  seen := h.seen
  texts := by simpa [size] using h.texts

namespace Answering

variable {inputs : List String} {done pending : List (Fin n)}

theorem getElem?_tasks (h : Answering script outcomes inputs done pending s) (task : Fin n) :
    s.tasks[task.val]? = some ⟨stage done pending task, false⟩ := by
  simp [h.tasks]

/-- One task goes on. -/
theorem tasks_setProgress {done' pending' : List (Fin n)}
    (h : Answering script outcomes inputs done pending s) (task : Fin n) {progress : Progress}
    (own : stage done' pending' task = progress)
    (others : ∀ other, other ≠ task → stage done' pending' other = stage done pending other) :
    (s.setProgress (.task task) progress).tasks =
      List.ofFn fun task => ⟨stage done' pending' task, false⟩ := by
  subst own
  rw [setProgress, h.tasks]
  refine List.ext_getElem (by simp) fun number _ bound => ?_
  have bound : number < n := by simpa using bound
  rw [List.getElem_modify, List.getElem_ofFn, List.getElem_ofFn]
  by_cases same : task.val = number
  · subst same
    simp
  · have other : (⟨number, bound⟩ : Fin n) ≠ task := fun heq => same (heq ▸ rfl)
    simp [same, others _ other]

theorem stage_eq_waiting_iff {task gate : Fin n} :
    stage done pending task = .waiting gate ↔ task = gate ∧ gate ∉ done ++ pending := by
  unfold stage
  split
  · rename_i inDone
    simp only [reduceCtorEq, false_iff, not_and, List.mem_append, not_not]
    rintro rfl
    exact .inl inDone
  · rename_i notDone
    split
    · rename_i inPending
      simp only [reduceCtorEq, false_iff, not_and, List.mem_append, not_not]
      rintro rfl
      exact .inr inPending
    · rename_i notPending
      constructor
      · intro same
        obtain rfl : task = gate := Fin.ext (Progress.waiting.inj same)
        exact ⟨rfl, by simp [notDone, notPending]⟩
      · rintro ⟨rfl, -⟩
        rfl

/-- The task that waits at a gate is the one with its number. -/
theorem waitingAt?_eq (h : Answering script outcomes inputs done pending s) {gate : Fin n}
    (unreleased : gate ∉ done ++ pending) : s.waitingAt? gate = some gate.val := by
  have waits : stage done pending gate = .waiting gate :=
    stage_eq_waiting_iff.mpr ⟨rfl, unreleased⟩
  rw [waitingAt?, h.tasks, List.findIdx?_eq_some_iff_getElem]
  refine ⟨by simp, by simp [waits], fun number earlier => ?_⟩
  -- a task before it waits at another gate, if it waits
  rw [List.getElem_ofFn, Bool.not_eq_true, beq_eq_false_iff_ne]
  intro same
  have heq := congrArg Fin.val (stage_eq_waiting_iff.mp same).1
  exact absurd heq (Nat.ne_of_lt earlier)

/-- The task whose gate is released becomes able to run. -/
theorem release (h : Answering script outcomes inputs done pending s)
    (gated : StartsGated script outcomes) (runnable : s.runnable = pending.map Fin.val)
    {gate : Fin n} (unreleased : gate ∉ done ++ pending) :
    Answering script outcomes inputs done (pending ++ [gate]) (s.release gate).2 ∧
      (s.release gate).2.runnable = (pending ++ [gate]).map Fin.val := by
  have hasGate : s.hasGate gate = true := hasGate_of_startsGated gated h.script gate
  have idle : gate.val ∉ s.runnable := by
    rw [runnable, List.mem_map]
    rintro ⟨other, able, same⟩
    obtain rfl : other = gate := Fin.ext same
    exact unreleased (List.mem_append_right done able)
  have released : (s.release gate).2 = { s.setProgress (.task gate) (.released gate) with
      runnable := s.runnable ++ [gate.val] } := by
    rw [Rehearsal.release, if_pos hasGate, h.waitingAt?_eq unreleased]
    dsimp only
    rw [if_neg idle]
  rw [released]
  rw [List.mem_append, not_or] at unreleased
  constructor
  · constructor
    · exact h.script
    · refine h.tasks_setProgress gate ?_ fun other ne => ?_
      · simp [stage, unreleased.1]
      · simp [stage, ne]
    · exact h.seen
    · exact h.texts
  · rw [List.map_append, ← runnable]
    rfl

/-- A task that is run after the release of its gate shows its outcome. -/
theorem runTask {task : Fin n}
    (h : Answering script outcomes inputs done (task :: pending) s)
    (gated : StartsGated script outcomes) (once : task ∉ done) :
    Answering script outcomes inputs (done ++ [task]) pending (s.runTask task) := by
  have released : s.tasks[task.val]? = some ⟨.released task, false⟩ := by
    rw [h.getElem?_tasks, stage, if_neg once, if_pos List.mem_cons_self]
  rw [runTask_of_released released]
  constructor
  · exact h.script
  · show (s.setProgress (.task task) (.completed task)).tasks = _
    refine h.tasks_setProgress task ?_ fun other ne => ?_
    · simp [stage]
    · simp [stage, ne]
  · exact h.seen
  · have shown : (s.complete (.task task) task).texts =
        s.texts ++ [(s.outcomeOf task).render] := by
      simp [complete, shows, Rehearsal.texts, Shown.text]
    rw [shown, h.texts, outcomeOf_of_startsGated gated h.script]
    simp

/-- The tasks that are able to run show their outcomes, in the order of the releases. -/
theorem foldl_runTask (h : Answering script outcomes inputs done pending s)
    (gated : StartsGated script outcomes) (once : (done ++ pending).Nodup) :
    Answering script outcomes inputs (done ++ pending) []
      ((pending.map Fin.val).foldl Rehearsal.runTask s) := by
  induction pending generalizing done s with
  | nil => simpa using h
  | cons task pending ih =>
    have fresh : task ∉ done := fun again =>
      List.disjoint_of_nodup_append once again List.mem_cons_self
    rw [List.append_cons] at once
    have rest := ih (h.runTask gated fresh) once
    simpa using rest

theorem settle (h : Answering script outcomes inputs done pending s)
    (gated : StartsGated script outcomes) (runnable : s.runnable = pending.map Fin.val)
    (once : (done ++ pending).Nodup) :
    Answering script outcomes inputs (done ++ pending) [] s.settle := by
  have taken : Answering script outcomes inputs done pending { s with runnable := [] } :=
    ⟨h.script, h.tasks, h.seen, h.texts⟩
  rw [Rehearsal.settle, runnable]
  exact taken.foldl_runTask gated once

/-- While gates are released and the tasks are run from time to time, the outcomes are shown in
the order of the releases. Behind a step that runs the tasks, all of them have been shown. -/
theorem run (h : Answering script outcomes inputs [] [] s) (gated : StartsGated script outcomes)
    (idle : s.runnable = []) {gates : List (Fin n)} {steps : List Step}
    (released : steps.map Step.action = gates.map fun gate => .release gate.val)
    (once : gates.Nodup) :
    ∃ done pending, done ++ pending = gates ∧
      (Answering script outcomes inputs done pending (s.run steps) ∧
        (s.run steps).runnable = pending.map Fin.val) ∧
      ((∀ step ∈ steps.getLast?, step.settles = true) → pending = []) := by
  refine run_in_batches (P := fun done pending s =>
    Answering script outcomes inputs done pending s ∧ s.runnable = pending.map Fin.val)
    ?_ ?_ ⟨h, idle⟩ released
  · rintro done pending gate s within ⟨answering, runnable⟩
    -- every gate is released once
    rw [← List.append_assoc] at within
    have unreleased : gate ∉ done ++ pending := fun again =>
      List.disjoint_of_nodup_append (once.sublist within.sublist) again
        (List.mem_singleton_self gate)
    exact answering.release gated runnable unreleased
  · rintro done pending s within ⟨answering, runnable⟩
    exact ⟨answering.settle gated runnable (once.sublist within.sublist), settle_runnable⟩

/-- When all tasks have been run behind the releases, all have ended. -/
theorem finished (h : Answering script outcomes inputs done [] s) (all : ∀ task, task ∈ done) :
    s.finished = List.replicate n true := by
  rw [Rehearsal.finished, h.tasks, List.map_ofFn, ← List.ofFn_const]
  congr 1
  funext task
  simp [stage, all, Progress.isEnded]

end Answering

/-! ### Any order of the releases -/

theorem startsGated_ofFn (outcomes : Fin n → Outcome) (more : List ScriptElement) :
    StartsGated (List.ofFn (fun i => ⟨outcomes i, true⟩) ++ more) outcomes := by
  intro i
  rw [List.getElem?_append_left (by simp)]
  simp

/-- The last response wins. The script starts with `n` gated elements; `n` submissions are made
in the background, and the tasks are run until all wait at their gates. Then the gates are
released in any order, and the tasks are run behind each release, behind some or at the end.
The outcomes are shown in the order of the releases, the last of them stays on the display, and
every task has ended. What the calls have seen does not depend on the order. -/
theorem last_response_shown (outcomes : Fin n → Outcome) (more : List ScriptElement)
    (inputs : Fin n → String) (order : Equiv.Perm (Fin n)) {triggering releasing : List Step}
    (triggered : triggering.map Step.action = List.ofFn fun i => .trigger (inputs i))
    (awaited : ∀ step ∈ triggering.getLast?, step.settles = true)
    (released : releasing.map Step.action = List.ofFn fun i => .release (order i).val)
    (answered : ∀ step ∈ releasing.getLast?, step.settles = true) :
    let initial := start (List.ofFn (fun i => ⟨outcomes i, true⟩) ++ more)
    (∀ i : Fin n, (initial.run triggering).progressOf (.task i) = some (.waiting i)) ∧
    (initial.run (triggering ++ releasing)).texts = List.replicate n runningText ++
      List.ofFn (fun i => (outcomes (order i)).render) ∧
    (∀ last : Fin n, last.val + 1 = n →
      (initial.run (triggering ++ releasing)).text = (outcomes (order last)).render) ∧
    (initial.run (triggering ++ releasing)).finished = List.replicate n true ∧
    (initial.run (triggering ++ releasing)).seen = List.ofFn inputs := by
  intro initial
  have gated := startsGated_ofFn outcomes more
  have made : triggering.map Step.action = (List.ofFn inputs).map .trigger := by
    rw [triggered, List.map_ofFn]
    rfl
  have opened : releasing.map Step.action =
      (List.ofFn order).map fun gate => .release gate.val := by
    rw [released, List.map_ofFn]
    rfl
  -- first all tasks wait
  obtain ⟨waiting, queued, all, ⟨gathered, runnable⟩, settled⟩ :=
    Gathered.run gated made (by simp)
  obtain rfl := settled awaited
  obtain rfl : waiting = List.ofFn inputs := by simpa using all
  have waits : Answering _ outcomes (List.ofFn inputs) [] [] (initial.run triggering) :=
    gathered.answering (by simp)
  -- then they are answered
  have once : (List.ofFn order).Nodup := List.nodup_ofFn.mpr order.injective
  obtain ⟨done, pending, all, ⟨answering, -⟩, settled⟩ :=
    waits.run gated runnable opened once
  obtain rfl := settled answered
  obtain rfl : done = List.ofFn order := by simpa using all
  have whole : initial.run (triggering ++ releasing) =
      (initial.run triggering).run releasing := List.foldl_append ..
  have texts : (initial.run (triggering ++ releasing)).texts = List.replicate n runningText ++
      List.ofFn (fun i => (outcomes (order i)).render) := by
    rw [whole, answering.texts, List.map_ofFn]
    rfl
  refine ⟨fun i => ?_, texts, fun last isLast => ?_, ?_, ?_⟩
  · rw [progressOf_task, waits.getElem?_tasks]
    rfl
  · have accounted : Accounted (initial.run (triggering ++ releasing)) :=
      (Accounted.start _).run _
    have response : (List.ofFn fun i => (outcomes (order i)).render).getLast? =
        some (outcomes (order last)).render := by
      have place : n - 1 = last.val := by omega
      rw [List.getLast?_eq_getElem?, List.length_ofFn, place]
      simp
    rw [accounted.text, texts, List.getLast?_append, response]
    rfl
  · rw [whole]
    exact answering.finished fun task => List.mem_ofFn.mpr (order.surjective task)
  · rw [whole]
    exact answering.seen

/-- Three tasks, the second of which is run only with the third; the gates are released
backwards, and the tasks are run behind the last two releases together. -/
theorem last_response_shown_backwards :
    let s := (start [⟨.ok (.result "1"), true⟩, ⟨.ok (.error "2"), true⟩,
        ⟨.error (.status 503), true⟩]).run
      ([⟨.trigger "a", true⟩, ⟨.trigger "b", false⟩, ⟨.trigger "c", true⟩] ++
        [⟨.release 2, true⟩, ⟨.release 1, false⟩, ⟨.release 0, true⟩])
    s.texts = [runningText, runningText, runningText, "Server error: 503", "Error: 2",
        "Result: 1"] ∧
      s.text = "Result: 1" ∧ s.finished = [true, true, true] ∧ s.seen = ["a", "b", "c"] := by
  have triggered : [⟨.trigger "a", true⟩, ⟨.trigger "b", false⟩, ⟨.trigger "c", true⟩].map
      Step.action = List.ofFn fun i => .trigger (![("a" : String), "b", "c"] i) := by
    decide
  have released : [⟨.release 2, true⟩, ⟨.release 1, false⟩, ⟨.release 0, true⟩].map Step.action =
      List.ofFn fun i => .release (Equiv.swap (0 : Fin 3) 2 i).val := by
    decide
  obtain ⟨-, texts, text, finished, seen⟩ := last_response_shown
    ![.ok (.result "1"), .ok (.error "2"), .error (.status 503)] [] ![("a" : String), "b", "c"]
    (Equiv.swap 0 2) triggered (by decide) released (by decide)
  exact ⟨texts, text 2 rfl, finished, seen⟩

end EvalConsole.Rehearsal
