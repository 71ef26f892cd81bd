/-
Openings that fail.

Opening a database creates what is missing, and what it has created stays when it fails: the
directories above, and an empty file if the file is sealed and may get no table. What is there
already is left as it was.

* `Store.LeavesFile`: a path leads to a sealed file, and there is none.
* `Store.attach_error`: what is not opened is as it was, or a file is left behind.
* `Afterwards` is how far an opening that failed has got; a call that fails gets no further.
* `Afterwards.contentAt`: a path to a database that was there is found to have what it had,
  unless a file bars the way to it.
-/
import EvalConsole.Proofs.Settings.Reading

namespace EvalConsole

namespace Store

variable {path : String} {made opened : Files} {store : Store} {location : Location}

/-- A path leads to a file that is sealed, and there is none: it is created without a table. -/
structure LeavesFile (path : String) (location : Location) (made : Files) : Prop where
  nulPosition : nulPosition? path = none
  named : Target.ofName path = .ok (.file location .create true)
  isNotDirectory : made.isDirectory location = false
  missing : made.node? location = none
  isBelow : made.isDirectory location.dropLast = true

namespace LeavesFile

/-- The file is left behind. -/
theorem attach (h : LeavesFile path location made) :
    Store.attach path made = (.error .unwritable, made.put location (.text "")) := by
  rw [attach_of_file h.nulPosition h.named, openFile_of_missing h.isNotDirectory h.missing,
    if_pos ⟨rfl, h.isBelow⟩]
  rfl

/-- The file is no concern of directories. -/
theorem isDirectory (h : LeavesFile path location made) (other : Location) :
    (made.put location (.text "")).isDirectory other = made.isDirectory other :=
  Files.isDirectory_put h.isNotDirectory (.text "") nofun other

/-- The file is found, and gets no table either. -/
theorem attach_again (h : LeavesFile path location made) :
    (Store.attach path (made.put location (.text ""))).1 = .error .unwritable := by
  rw [attach_of_file h.nulPosition h.named,
    openFile_of_text ((h.isDirectory location).trans h.isNotDirectory) (Files.node?_put_self ..)]
  rfl

/-- Opening the path again fails for the same cause. -/
theorem contentAt {files : Files} (h : LeavesFile path location made)
    (hprepare : prepare path files = (.ok (), made)) :
    Store.contentAt path (made.put location (.text "")) = Store.contentAt path files := by
  have hagain : prepare path (made.put location (.text "")) =
      (.ok (), made.put location (.text "")) :=
    prepare_of_ok hprepare fun other hd => (h.isDirectory other).trans hd
  rw [contentAt_of_prepare_ok hagain, contentAt_of_prepare_ok hprepare, found, found,
    h.attach_again, h.attach]
  rfl

end LeavesFile

end Store

/-! ### What is left behind -/

/-- How far a call that fails may have got. -/
inductive Afterwards (path : String) (files files' : Files) : Prop where
  /-- Nothing was opened. -/
  | refused (h : files' = files)
  /-- The directory above could not be made. -/
  | unprepared (cause : OpenError) (h : Store.prepare path files = (.error cause, files'))
  /-- The directory above was made, and nothing else was changed. -/
  | prepared (made : Files) (h : Store.prepare path files = (.ok (), made))
    (h' : ∀ location, files'.node? location = made.node? location)
  /-- The directory above was made, and in it a file. -/
  | withFile (made : Files) (location : Location) (h : Store.prepare path files = (.ok (), made))
    (hleaves : Store.LeavesFile path location made)
    (h' : files' = made.put location (.text ""))

/-- A file that a call has left behind is on the way to the directory above a path. -/
structure Store.BarredByFile (path other : String) (files files' : Files) (parent : String)
    (location : Location) (cause : DirectoryError) : Prop where
  isAbove : FilePath.parent? other = some parent
  named : Target.ofName path = .ok (.file location .create true)
  before : files.node? location = none
  after : files'.node? location = some (.text "")
  isOnWay : location ∈ FilePath.way parent
  contentAt : contentAt other files' = .error (.noDirectory parent cause)

namespace Afterwards

variable {path : String} {files files' : Files}

/-- The path itself is found to have what it had. -/
theorem contentAt_self (h : Afterwards path files files') :
    Store.contentAt path files' = Store.contentAt path files ∨
      ∃ parent, Store.BarredAbove path files files' parent := by
  cases h with
  | refused h => exact .inl (h ▸ rfl)
  | unprepared cause hprepare =>
    have hadds := Store.addsDirectories_prepare path files
    rw [hprepare] at hadds
    exact Store.contentAt_of_addsDirectories hadds (.inl ⟨cause, files', hprepare⟩)
  | prepared made hprepare hsame =>
    left
    -- the directory above is found again, and so is what is at the location
    have hagain : Store.prepare path files' = (.ok (), files') :=
      Store.prepare_of_ok hprepare fun location hd => by
        rwa [Files.isDirectory_congr (hsame location)]
    rw [Store.contentAt_of_prepare_ok hagain, Store.contentAt_of_prepare_ok hprepare]
    exact Store.attach_congr fun location _ =>
      ⟨hsame location, fun _ => Files.isDirectory_congr (hsame _)⟩
  | withFile made location hprepare hleaves hfile =>
    left
    rw [hfile]
    exact hleaves.contentAt hprepare

/-- Every path to a database that was there is found to have what it had. -/
theorem contentAt_of_leadsToDatabase (h : Afterwards path files files') {other : String}
    (hother : Store.LeadsToDatabase other files) :
    Store.contentAt other files' = Store.contentAt other files ∨
      (∃ parent, Store.BarredAbove other files files' parent) ∨
      ∃ parent location cause, Store.BarredByFile path other files files' parent location cause := by
  have hmade := Store.addsDirectories_prepare path files
  cases h with
  | refused h => exact .inl (h ▸ rfl)
  | unprepared cause hprepare =>
    rw [hprepare] at hmade
    exact (Store.contentAt_of_addsDirectories hmade (.inr hother)).imp_right .inl
  | prepared made hprepare hsame =>
    rw [hprepare] at hmade
    have hadds := hmade.trans fun location => .inl (hsame location)
    exact (Store.contentAt_of_addsDirectories hadds (.inr hother)).imp_right .inl
  | withFile made location hprepare hleaves hfile =>
    rw [hprepare] at hmade
    subst hfile
    by_cases hway : ∃ parent, FilePath.parent? other = some parent ∧ location ∈ FilePath.way parent
    · obtain ⟨parent, hparent, hon⟩ := hway
      have hd := (hleaves.isDirectory location).trans hleaves.isNotDirectory
      obtain ⟨cause, hcontent⟩ :=
        Store.contentAt_of_file_on_way hd (Files.node?_put_self ..) hparent hon
      have hmissing : files.node? location = none := by
        cases hnode : files.node? location with
        | none => rfl
        | some node => cases hleaves.missing.symm.trans (hmade.node? hnode)
      exact .inr (.inr ⟨parent, location, cause, hparent, hleaves.named, hmissing,
        Files.node?_put_self .., hon, hcontent⟩)
    · have haround (parent : String) (hparent : FilePath.parent? other = some parent) :
          location ∉ FilePath.way parent :=
        fun hon => hway ⟨parent, hparent, hon⟩
      have hsame := Files.sameBut_put made location (.text "")
      -- the directories have been added first, and then the file
      have hcontent : Store.contentAt other (made.put location (.text "")) =
          Store.contentAt other made :=
        Store.contentAt_of_sameBut hsame haround (hother.of_addsDirectories hmade)
          fun content there => by cases hleaves.missing.symm.trans there
      rcases Store.contentAt_of_addsDirectories hmade (.inr hother) with hbefore | ⟨parent, hbarred⟩
      · exact .inl (hcontent.trans hbefore)
      · exact .inr (.inl ⟨parent,
          hbarred.of_sameBut hsame (haround parent hbarred.isAbove) hcontent⟩)

/-- The path itself, and every path to a database that was there, is found to have what it
had. -/
theorem contentAt (h : Afterwards path files files') {other : String}
    (hother : other = path ∨ Store.LeadsToDatabase other files) :
    Store.contentAt other files' = Store.contentAt other files ∨
      (∃ parent, Store.BarredAbove other files files' parent) ∨
      ∃ parent location cause, other ≠ path ∧
        Store.BarredByFile path other files files' parent location cause := by
  by_cases hself : other = path
  · subst hself
    exact h.contentAt_self.imp_right .inl
  · refine (h.contentAt_of_leadsToDatabase (hother.resolve_left hself)).imp_right
      (Or.imp_right ?_)
    rintro ⟨parent, location, cause, hbarred⟩
    exact ⟨parent, location, cause, hself, hbarred⟩

end Afterwards

end EvalConsole
