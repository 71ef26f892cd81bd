/-
What is read when a path is opened anew.

* `readSetting` opens a path and reads a key.
* `Store.contentAt` is the content that an opened path is found to have; every key is read
  from it.
* `Store.contentAt_of_addsDirectories`: directories that have been added change nothing of
  it, unless the path was barred by a file and is barred anew.
* `Store.contentAt_of_sameBut`: neither does a file that is not on the way to the path, and
  `Store.contentAt_of_file_on_way` says what a file does that is.
-/
import EvalConsole.Proofs.Settings.Directories
import EvalConsole.Settings.Server

namespace EvalConsole

/-- The value of a key, from a database opened for that. -/
def readSetting (path key : String) (files : Files) : Except SettingsError (Option String) :=
  match Store.openAt path files with
  | (.error cause, _) => .error (.cannotOpen cause)
  | (.ok store, files) => (store.get? files key).mapError .cannotRead

namespace Store

variable {path : String} {files files' made : Files} {location : Location}

/-- Where a path leads, if it names a file. -/
def location? (path : String) : Option Location :=
  match Target.ofName path with
  | .ok (.file location _ _) => some location
  | .ok (.own _) => none
  | .error _ => none

/-- What a store holds that was just opened. -/
def found (opened : Except OpenError Store × Files) : Except OpenError Database :=
  opened.1.map fun store => store.content opened.2

/-- What a store holds once a path is opened. -/
def contentAt (path : String) (files : Files) : Except OpenError Database :=
  found (openAt path files)

theorem contentAt_of_prepare_error {cause : OpenError}
    (h : (prepare path files).1 = .error cause) : contentAt path files = .error cause := by
  obtain ⟨cause', made, hprepare, hopen⟩ | ⟨made, hprepare, -⟩ := openAt_cases path files
  · rw [hprepare] at h
    obtain rfl : cause' = cause := Except.error.inj h
    rw [contentAt, hopen]
    rfl
  · rw [hprepare] at h
    cases h

theorem contentAt_of_prepare_ok (h : prepare path files = (.ok (), made)) :
    contentAt path files = found (attach path made) := by
  rw [contentAt, openAt_of_prepare_ok h]

/-! ### What an opened path depends on -/

theorem openFile_congr (hnode : files'.node? location = files.node? location)
    (hparent : files.node? location = none →
      files'.isDirectory location.dropLast = files.isDirectory location.dropLast)
    (access : Access) (isSealed : Bool) :
    found (openFile path location access isSealed files') =
      found (openFile path location access isSealed files) := by
  have hcreate (readOnly : Bool) : found (createTable location readOnly files') =
      found (createTable location readOnly files) := by
    have hnew (files : Files) : (Store.shared location).content
        (files.put location (.database .empty)) = .empty :=
      content_shared (Files.node?_put_self ..)
    cases readOnly with
    | true => rfl
    | false => exact congrArg Except.ok ((hnew files').trans (hnew files).symm)
  have hd' := Files.isDirectory_congr hnode
  rcases files.directory_or_missing_or_file location with
    hd | ⟨hd, missing⟩ | ⟨hd, node, there⟩
  · rw [openFile_of_isDirectory hd, openFile_of_isDirectory (hd'.trans hd)]
    rfl
  · rw [openFile_of_missing hd missing, openFile_of_missing (hd'.trans hd) (hnode.trans missing),
      hparent missing]
    split
    · exact hcreate _
    · rfl
  · cases node with
    | directory => exact absurd rfl (Files.ne_directory hd there)
    | text content =>
      rw [openFile_of_text hd there, openFile_of_text (hd'.trans hd) (hnode.trans there)]
      split
      · exact hcreate _
      · rfl
    | database content =>
      rw [openFile_of_database hd there, openFile_of_database (hd'.trans hd) (hnode.trans there)]
      exact congrArg Except.ok ((content_shared (hnode.trans there)).trans
        (content_shared there).symm)

/-- What is attached depends on what is at the location only and, if that is nothing, on the
directory where it would be. -/
theorem attach_congr (h : ∀ location, location? path = some location →
      files'.node? location = files.node? location ∧
        (files.node? location = none →
          files'.isDirectory location.dropLast = files.isDirectory location.dropLast)) :
    found (attach path files') = found (attach path files) := by
  unfold attach
  cases nulPosition? path with
  | some position => rfl
  | none =>
    unfold location? at h
    cases hname : Target.ofName path with
    | error cause => rfl
    | ok target =>
      cases target with
      | own readOnly => cases readOnly <;> rfl
      | file location access isSealed =>
        rw [hname] at h
        obtain ⟨hnode, hparent⟩ := h location rfl
        exact openFile_congr hnode hparent access isSealed

/-- What is found depends on what comes of the directories above, and on what is attached then. -/
theorem contentAt_congr (hprepare : (prepare path files').1 = (prepare path files).1)
    (hattach : (prepare path files).1 = .ok () →
      found (attach path (prepare path files').2) = found (attach path (prepare path files).2)) :
    contentAt path files' = contentAt path files := by
  cases hresult : (prepare path files).1 with
  | error cause =>
    rw [contentAt_of_prepare_error hresult, contentAt_of_prepare_error (hprepare.trans hresult)]
  | ok =>
    rw [contentAt_of_prepare_ok (Prod.ext hresult rfl),
      contentAt_of_prepare_ok (Prod.ext (hprepare.trans hresult) rfl)]
    exact hattach hresult

/-- Whether a path leads to a database. -/
def LeadsToDatabase (path : String) (files : Files) : Prop :=
  ∃ location content, location? path = some location ∧
    files.node? location = some (.database content)

theorem LeadsToDatabase.of_addsDirectories (h : LeadsToDatabase path files)
    (hadds : files.AddsDirectories made) : LeadsToDatabase path made := by
  obtain ⟨location, content, hlocation, there⟩ := h
  exact ⟨location, content, hlocation, hadds.node? there⟩

/-- A database that is there still is found again. -/
theorem found_attach_of_database {content : Database} (hlocation : location? path = some location)
    (there : files.node? location = some (.database content))
    (there' : files'.node? location = some (.database content)) :
    found (attach path files') = found (attach path files) := by
  refine attach_congr fun other hother => ?_
  obtain rfl : location = other := Option.some.inj (hlocation.symm.trans hother)
  rw [there, there']
  exact ⟨rfl, nofun⟩

/-! ### Directories that were added -/

/-- Among files where only directories have been added the directory above is there or can be
made as before, unless its way is barred anew. -/
theorem prepare_of_addsDirectories (h : files.AddsDirectories files') (path : String) :
    ((prepare path files').1 = (prepare path files).1 ∨
      ∃ parent, FilePath.parent? path = some parent ∧ files.BarredAnew files' parent ∧
        (prepare path files).1 = .error (.noDirectory parent .fileExists) ∧
        (prepare path files').1 = .error (.noDirectory parent .notDirectory)) ∧
      (prepare path files).2.AddsDirectories (prepare path files').2 := by
  rcases prepare_cases path with ⟨nothing, -⟩ | ⟨parent, hparent, making⟩
  · rw [nothing, nothing]
    exact ⟨.inl rfl, h⟩
  · obtain ⟨hends, hadds⟩ := Files.makeDirectories_of_addsDirectories h parent
    rw [making, making]
    refine ⟨hends.imp (congrArg (Except.mapError _)) fun barred => ?_, hadds⟩
    refine ⟨parent, hparent, barred, ?_, ?_⟩
    · rw [barred.before]
      rfl
    · rw [barred.after]
      rfl

/-- The directory above a path cannot be made, before and after directories were added. -/
structure BarredAbove (path : String) (files files' : Files) (parent : String) : Prop where
  isAbove : FilePath.parent? path = some parent
  barred : files.BarredAnew files' parent
  before : contentAt path files = .error (.noDirectory parent .fileExists)
  after : contentAt path files' = .error (.noDirectory parent .notDirectory)

/-- Directories that have been added change nothing of what a path is found to have, when
the path leads to a database or fails before it gets there. The one exception is the cause
for which the directory above cannot be made. -/
theorem contentAt_of_addsDirectories (h : files.AddsDirectories files')
    (hpath : (∃ cause made, prepare path files = (.error cause, made)) ∨
      LeadsToDatabase path files) :
    contentAt path files' = contentAt path files ∨ ∃ parent, BarredAbove path files files' parent := by
  obtain ⟨hends, hadds⟩ := prepare_of_addsDirectories h path
  rcases hends with same | ⟨parent, hparent, barred, hbefore, hafter⟩
  · refine .inl (contentAt_congr same fun hok => ?_)
    have there : LeadsToDatabase path files := hpath.resolve_left fun ⟨cause, made, hfailed⟩ => by
      rw [hfailed] at hok
      cases hok
    obtain ⟨location, content, hlocation, hmade⟩ :=
      there.of_addsDirectories (addsDirectories_prepare path files)
    exact found_attach_of_database hlocation hmade (hadds.node? hmade)
  · exact .inr ⟨parent, hparent, barred, contentAt_of_prepare_error hbefore,
      contentAt_of_prepare_error hafter⟩

/-! ### A file that was added -/

section SameBut

variable {but : Location}

/-- The directory above a path is there or can be made, whatever is at a location that is not on
the way. -/
theorem prepare_of_sameBut (h : Files.SameBut but files files')
    (hway : ∀ parent, FilePath.parent? path = some parent → but ∉ FilePath.way parent) :
    (prepare path files').1 = (prepare path files).1 ∧
      Files.SameBut but (prepare path files).2 (prepare path files').2 := by
  rcases prepare_cases path with ⟨nothing, -⟩ | ⟨parent, hparent, making⟩
  · rw [nothing, nothing]
    exact ⟨rfl, h⟩
  · rw [making, making]
    exact (Files.makeDirectories_of_sameBut h (hway parent hparent)).imp_left
      (congrArg (Except.mapError _))

/-- What is at a location changes nothing of what a path is found to have that leads to a
database elsewhere, on a way around the location. -/
theorem contentAt_of_sameBut (h : Files.SameBut but files files')
    (hway : ∀ parent, FilePath.parent? path = some parent → but ∉ FilePath.way parent)
    (hpath : LeadsToDatabase path files)
    (hbut : ∀ content, files.node? but ≠ some (.database content)) :
    contentAt path files' = contentAt path files := by
  obtain ⟨hends, hsame⟩ := prepare_of_sameBut h hway
  refine contentAt_congr hends fun _ => ?_
  obtain ⟨location, content, hlocation, there⟩ := hpath
  have hmade := (addsDirectories_prepare path files).node? there
  have hne : location ≠ but := by
    rintro rfl
    exact hbut content there
  exact found_attach_of_database hlocation hmade ((hsame location hne).trans hmade)

/-- A path is not opened when there is a file on the way to the directory above. -/
theorem contentAt_of_file_on_way {node : Node} (hd : files.isDirectory but = false)
    (file : files.node? but = some node) {parent : String}
    (hparent : FilePath.parent? path = some parent) (hway : but ∈ FilePath.way parent) :
    ∃ cause, contentAt path files = .error (.noDirectory parent cause) := by
  rcases prepare_cases path with ⟨-, hempty⟩ | ⟨_, hparent', making⟩
  · rw [hempty parent hparent] at hway
    cases hway
  · obtain rfl := Option.some.inj (hparent.symm.trans hparent')
    obtain ⟨cause, made, hfails⟩ := Files.makeDirectories_of_file_on_way hd file hway
    refine ⟨cause, contentAt_of_prepare_error ?_⟩
    rw [making, hfails]
    rfl

theorem BarredAbove.of_sameBut {parent : String} (h : BarredAbove path files made parent)
    (hsame : Files.SameBut but made files') (hway : but ∉ FilePath.way parent)
    (hcontent : contentAt path files' = contentAt path made) :
    BarredAbove path files files' parent :=
  { h with
    barred := h.barred.of_sameBut hsame hway
    after := hcontent.trans h.after }

end SameBut

end Store

theorem readSetting_of_openAt {path : String} {files opened : Files} {store : Store}
    (h : Store.openAt path files = (.ok store, opened)) (key : String) :
    readSetting path key files = ((store.content opened).get? key).mapError .cannotRead := by
  rw [readSetting, h]
  rfl

/-- Opening a path changes the value of no key. -/
theorem readSetting_opened {path : String} {files opened : Files} {store : Store}
    (h : Store.openAt path files = (.ok store, opened)) (key : String) :
    readSetting path key opened = readSetting path key files := by
  rw [readSetting_of_openAt h, readSetting_of_openAt (Store.openAt_again h)]

end EvalConsole
