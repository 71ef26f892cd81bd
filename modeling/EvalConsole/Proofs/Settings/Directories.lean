/-
Making directories once more.

An attempt to make a directory may fail and have made others on its way. Among files where
only directories have been added, another attempt comes to the same end, with one exception:
when the way passes a directory that was added, steps up again and is barred by a file, then
the cause that is found for the failure may be another one. A file that was added matters to
those ways only that lead through it.

* `FilePath.way` are the locations that a path leads through.
* `Files.IsTree`: whatever there is stands in a directory.
* `Files.BarredAnew` is the exception; in a tree it takes a step up.
* `Files.makeDirectories_of_addsDirectories` compares the two attempts.
* `Files.makeDirectories_of_sameBut`: a way around a location does not depend on what is there.
* `Files.makeDirectories_of_file_on_way`: a way through a file ends in a failure.
-/
import Mathlib.Data.List.Induction
import EvalConsole.Proofs.Settings.Reopening

namespace EvalConsole

namespace FilePath

/-- The locations that steps lead through. -/
def wayFrom (location : Location) : (steps : List String) → List Location
  | [] => []
  | step :: rest => stepFrom location step :: wayFrom (stepFrom location step) rest

/-- The locations that a path leads through. -/
def way (path : String) : List Location :=
  wayFrom [] (steps path)

end FilePath

namespace Files

variable {files files' : Files} {location : Location}

/-! ### Trees -/

/-- Whatever there is stands in a directory. -/
def IsTree (files : Files) : Prop :=
  ∀ location name, files.node? (location ++ [name]) ≠ none → files.isDirectory location = true

theorem isGiven_of_append {names : List String} (h : isGiven (location ++ names) = true) :
    isGiven location = true := by
  rw [isGiven, Bool.or_eq_true, beq_iff_eq] at h ⊢
  rcases h with hup | hroot
  · rw [List.all_append, Bool.and_eq_true] at hup
    exact .inl hup.1
  · rcases List.append_eq_singleton_iff.mp hroot with ⟨rfl, -⟩ | ⟨rfl, -⟩
    · exact .inl rfl
    · exact .inr rfl

/-- Nothing stands below what is missing. -/
theorem IsTree.node?_append (h : files.IsTree) (hd : files.isDirectory location = false)
    (missing : files.node? location = none) (names : List String) :
    files.node? (location ++ names) = none := by
  induction names using List.reverseRecOn with
  | nil => rwa [List.append_nil]
  | append_singleton names name ih =>
    by_contra there
    rw [← List.append_assoc] at there
    rcases isDirectory_iff.mp (h _ _ there) with given | directory
    · exact not_isGiven_of_isDirectory hd (isGiven_of_append given)
    · cases ih.symm.trans directory

/-- Where there is nothing below, directories can be made as long as the way does not step
up. -/
theorem enterAll_of_nothing_below {steps : List String} (hgiven : ¬isGiven location = true)
    (below : ∀ names, names ≠ [] → files.node? (location ++ names) = none)
    (hsteps : ".." ∉ steps) (isMaking : Bool) :
    (files.enterAll location isMaking steps).1 = .ok () := by
  induction steps generalizing files location isMaking with
  | nil => rfl
  | cons step rest ih =>
    obtain ⟨hstep, hrest⟩ := not_or.mp (mt List.mem_cons.mpr hsteps)
    have hnext : FilePath.stepFrom location step = location ++ [step] := if_neg (Ne.symm hstep)
    have hgiven' : ¬isGiven (location ++ [step]) = true := mt isGiven_of_append hgiven
    have missing : files.node? (location ++ [step]) = none := below _ (List.cons_ne_nil _ _)
    have hd : files.isDirectory (location ++ [step]) = false := by
      rw [← Bool.not_eq_true, isDirectory_iff, not_or, missing]
      exact ⟨hgiven', nofun⟩
    rw [enterAll_of_missing (hnext ▸ hd) (hnext ▸ missing), hnext]
    refine ih hgiven' (fun names hnames => ?_) hrest true
    rw [node?_put_of_ne _ (by simpa using hnames), List.append_assoc]
    exact below _ (List.cons_ne_nil _ _)

/-- Below a directory that has just been made there is no file in the way. -/
theorem IsTree.enterAll_put (h : files.IsTree) (hd : files.isDirectory location = false)
    (missing : files.node? location = none) {steps : List String} (hsteps : ".." ∉ steps)
    (isMaking : Bool) :
    ((files.put location .directory).enterAll location isMaking steps).1 = .ok () := by
  refine enterAll_of_nothing_below (not_isGiven_of_isDirectory hd) (fun names hnames => ?_) hsteps
    isMaking
  rw [node?_put_of_ne _ (by simpa using hnames)]
  exact h.node?_append hd missing names

/-! ### Two attempts -/

theorem isDirectory_congr (h : files'.node? location = files.node? location) :
    files'.isDirectory location = files.isDirectory location := by
  rw [isDirectory, isDirectory, h]

theorem AddsDirectories.put (h : AddsDirectories files files') (location : Location) (node : Node) :
    AddsDirectories (files.put location node) (files'.put location node) := by
  intro other
  by_cases own : other = location
  · subst other
    exact .inl (by rw [node?_put_self, node?_put_self])
  · rw [node?_put_of_ne _ own, node?_put_of_ne _ own]
    exact h other

/-- A directory is made that the others have already. -/
theorem AddsDirectories.put_left (h : AddsDirectories files files')
    (made : files'.node? location = some .directory) :
    AddsDirectories (files.put location .directory) files' := by
  intro other
  by_cases own : other = location
  · subst other
    exact .inl (by rw [made, node?_put_self])
  · rw [node?_put_of_ne _ own]
    exact h other

/-- Two attempts to go along steps end differently: at a file, whose directory had to be made
in the first one only. -/
structure EndsDiffer (files files' : Files) (first second : Except DirectoryError Unit)
    (isMaking isMaking' : Bool) (way : List Location) (steps : List String) : Prop where
  first : first = .error .fileExists
  second : second = .error .notDirectory
  isLooking : isMaking' = false
  passes : isMaking = true ∨
    ∃ location ∈ way, files.node? location = none ∧ files'.node? location = some .directory
  stepsUp : files.IsTree → isMaking = false → ".." ∈ steps

theorem enterAll_of_addsDirectories (h : AddsDirectories files files') (location : Location)
    {isMaking isMaking' : Bool} (hmaking : isMaking' = true → isMaking = true)
    (steps : List String) :
    ((files'.enterAll location isMaking' steps).1 = (files.enterAll location isMaking steps).1 ∨
      EndsDiffer files files' (files.enterAll location isMaking steps).1
        (files'.enterAll location isMaking' steps).1 isMaking isMaking'
        (FilePath.wayFrom location steps) steps) ∧
      AddsDirectories (files.enterAll location isMaking steps).2
        (files'.enterAll location isMaking' steps).2 := by
  induction steps generalizing files files' location isMaking isMaking' with
  | nil => exact ⟨.inl rfl, h⟩
  | cons step rest ih =>
    rw [FilePath.wayFrom]
    rcases files.directory_or_missing_or_file (FilePath.stepFrom location step) with
      hd | ⟨hd, missing⟩ | ⟨hd, node, file⟩
    · rw [enterAll_of_isDirectory hd, enterAll_of_isDirectory (h.isDirectory hd)]
      refine (ih h _ hmaking).imp_left (Or.imp_right fun differ => { differ with
        passes := differ.passes.imp_right ?_
        stepsUp := fun htree hlooking => List.mem_cons_of_mem _ (differ.stepsUp htree hlooking) })
      rintro ⟨passed, hpassed, hadded⟩
      exact ⟨passed, List.mem_cons_of_mem _ hpassed, hadded⟩
    · rw [enterAll_of_missing hd missing]
      rcases h (FilePath.stepFrom location step) with same | ⟨-, made⟩
      · -- both make the directory, and both go on making
        rw [enterAll_of_missing ((isDirectory_congr same).trans hd) (same.trans missing)]
        refine (ih (h.put _ _) _ fun _ => rfl).imp_left fun hends => .inl ?_
        exact hends.resolve_right fun differ => nomatch differ.isLooking
      · -- only the first has to make it
        rw [enterAll_of_isDirectory (isDirectory_iff.mpr (.inr made))]
        refine (ih (h.put_left made) _ fun _ => rfl).imp_left (Or.imp_right fun differ =>
          { differ with
            passes := .inr ⟨_, List.mem_cons_self, missing, made⟩
            stepsUp := fun htree _ => ?_ })
        by_contra hsteps
        have hok := htree.enterAll_put hd missing
          (fun hrest => hsteps (List.mem_cons_of_mem _ hrest)) true
        cases hok.symm.trans differ.first
    · have hd' : files'.isDirectory (FilePath.stepFrom location step) = false := by
        rw [isDirectory_congr ((h.node? file).trans file.symm), hd]
      rw [enterAll_of_file hd file, enterAll_of_file hd' (h.node? file)]
      refine ⟨?_, h⟩
      cases isMaking with
      | false =>
        rw [Bool.eq_false_iff.mpr (mt hmaking nofun)]
        exact .inl rfl
      | true =>
        cases hends : isMaking' || rest.isEmpty with
        | true => exact .inl rfl
        | false =>
          exact .inr ⟨rfl, rfl, (Bool.or_eq_false_iff.mp hends).1, .inl rfl, nofun⟩

/-- A directory that cannot be made, before and after others were added: a file bars the way.
Before, its place is where a directory is to be made; when the way up to there has been made,
it is a file in the place of a directory. -/
structure BarredAnew (files files' : Files) (path : String) : Prop where
  before : (files.makeDirectories path).1 = .error .fileExists
  after : (files'.makeDirectories path).1 = .error .notDirectory
  passes : ∃ location ∈ FilePath.way path,
    files.node? location = none ∧ files'.node? location = some .directory
  stepsUp : files.IsTree → ".." ∈ FilePath.steps path

/-- Among files where only directories have been added a directory can be made if it could
be made before, and if not, then for the same cause, unless its way is barred anew. -/
theorem makeDirectories_of_addsDirectories (h : AddsDirectories files files') (path : String) :
    ((files'.makeDirectories path).1 = (files.makeDirectories path).1 ∨
      files.BarredAnew files' path) ∧
      AddsDirectories (files.makeDirectories path).2 (files'.makeDirectories path).2 := by
  by_cases hnul : path.toList.contains '\x00' = true
  · have hrefused (files : Files) : files.makeDirectories path = (.error .nul, files) :=
      if_pos hnul
    rw [hrefused, hrefused]
    exact ⟨.inl rfl, h⟩
  · have hwalk (files : Files) :
        files.makeDirectories path = files.enterAll [] false (FilePath.steps path) := if_neg hnul
    obtain ⟨hends, hadds⟩ := enterAll_of_addsDirectories h [] (fun making => making)
      (FilePath.steps path)
    rw [← hwalk, ← hwalk] at hends hadds
    refine ⟨hends.imp_right fun differ => ⟨differ.first, differ.second, ?_, fun htree =>
      differ.stepsUp htree rfl⟩, hadds⟩
    exact differ.passes.resolve_left nofun

/-! ### One location more -/

/-- Everything is as it was, but for one location. -/
def SameBut (but : Location) (files files' : Files) : Prop :=
  ∀ other, other ≠ but → files'.node? other = files.node? other

variable {but : Location}

theorem sameBut_put (files : Files) (but : Location) (node : Node) :
    SameBut but files (files.put but node) :=
  fun _ hother => node?_put_of_ne files hother node

theorem SameBut.put (h : SameBut but files files') (location : Location) (node : Node) :
    SameBut but (files.put location node) (files'.put location node) := by
  intro other hother
  rw [node?_put, node?_put, h other hother]

theorem enterAll_of_sameBut (h : SameBut but files files') {isMaking : Bool} {steps : List String}
    (hway : but ∉ FilePath.wayFrom location steps) :
    (files'.enterAll location isMaking steps).1 = (files.enterAll location isMaking steps).1 ∧
      SameBut but (files.enterAll location isMaking steps).2
        (files'.enterAll location isMaking steps).2 := by
  induction steps generalizing files files' location isMaking with
  | nil => exact ⟨rfl, h⟩
  | cons step rest ih =>
    rw [FilePath.wayFrom, List.mem_cons, not_or] at hway
    have same := h _ (Ne.symm hway.1)
    have hd' := isDirectory_congr same
    rcases files.directory_or_missing_or_file (FilePath.stepFrom location step) with
      hd | ⟨hd, missing⟩ | ⟨hd, node, file⟩
    · rw [enterAll_of_isDirectory hd, enterAll_of_isDirectory (hd'.trans hd)]
      exact ih h hway.2
    · rw [enterAll_of_missing hd missing, enterAll_of_missing (hd'.trans hd) (same.trans missing)]
      exact ih (h.put _ _) hway.2
    · rw [enterAll_of_file hd file, enterAll_of_file (hd'.trans hd) (same.trans file)]
      exact ⟨rfl, h⟩

/-- A file on the way is never passed. -/
theorem enterAll_of_file_on_way {node : Node} (hd : files.isDirectory but = false)
    (file : files.node? but = some node) {isMaking : Bool} {steps : List String}
    (hway : but ∈ FilePath.wayFrom location steps) :
    ∃ cause made, files.enterAll location isMaking steps = (.error cause, made) := by
  induction steps generalizing files location isMaking with
  | nil => cases hway
  | cons step rest ih =>
    rw [FilePath.wayFrom, List.mem_cons] at hway
    rcases files.directory_or_missing_or_file (FilePath.stepFrom location step) with
      hd' | ⟨hd', missing⟩ | ⟨hd', node', file'⟩
    · rcases hway with rfl | hrest
      · cases hd.symm.trans hd'
      · rw [enterAll_of_isDirectory hd']
        exact ih hd file hrest
    · rcases hway with rfl | hrest
      · cases missing.symm.trans file
      · rw [enterAll_of_missing hd' missing]
        -- the directory that is made is another location
        have hother : but ≠ FilePath.stepFrom location step := by
          rintro rfl
          cases missing.symm.trans file
        have same := node?_put_of_ne files hother .directory
        exact ih ((isDirectory_congr same).trans hd) (same.trans file) hrest
    · exact ⟨_, _, enterAll_of_file hd' file'⟩

/-- A directory around a location is made or not, whatever is at the location. -/
theorem makeDirectories_of_sameBut (h : SameBut but files files') {path : String}
    (hway : but ∉ FilePath.way path) :
    (files'.makeDirectories path).1 = (files.makeDirectories path).1 ∧
      SameBut but (files.makeDirectories path).2 (files'.makeDirectories path).2 := by
  unfold makeDirectories
  split
  · exact ⟨rfl, h⟩
  · exact enterAll_of_sameBut h hway

/-- No directory is made on a way through a file. -/
theorem makeDirectories_of_file_on_way {node : Node} (hd : files.isDirectory but = false)
    (file : files.node? but = some node) {path : String} (hway : but ∈ FilePath.way path) :
    ∃ cause made, files.makeDirectories path = (.error cause, made) := by
  unfold makeDirectories
  split
  · exact ⟨_, _, rfl⟩
  · exact enterAll_of_file_on_way hd file hway

theorem BarredAnew.of_sameBut {made : Files} {path : String} (h : files.BarredAnew made path)
    (hsame : SameBut but made files') (hway : but ∉ FilePath.way path) :
    files.BarredAnew files' path := by
  obtain ⟨passed, hpassed, missing, added⟩ := h.passes
  have hother : passed ≠ but := by
    rintro rfl
    exact hway hpassed
  exact { h with
    after := (makeDirectories_of_sameBut hsame hway).1.trans h.after
    passes := ⟨passed, hpassed, missing, (hsame passed hother).trans added⟩ }

end Files

end EvalConsole
