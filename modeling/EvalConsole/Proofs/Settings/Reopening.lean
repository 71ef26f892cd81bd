/-
Opening a database once more.

Opening creates what is missing, and what it has created it finds again: the directories on
the way and the database at the end.

* `Files.AddsDirectories`: only directories have been added.
* `Files.makeDirectories_of_ok`: directories that have been made are found again.
* `Store.Opened` is what opening a path leaves behind, `Store.openAt_of_opened` that a path
  which was opened opens to the same database and changes nothing.
* `Store.OpensTo` is the content that a path opens to, before or after it was opened.
-/
import Mathlib.Tactic.Common
import EvalConsole.Settings.Store

namespace EvalConsole

/-! ### Files -/

namespace Files

variable {files files' files'' : Files}

/-- Some directories may have been added, and everything else is as it was. -/
def AddsDirectories (files files' : Files) : Prop :=
  ∀ location, files'.node? location = files.node? location ∨
    files.node? location = none ∧ files'.node? location = some .directory

namespace AddsDirectories

theorem refl (files : Files) : AddsDirectories files files :=
  fun _ => .inl rfl

theorem trans (h : AddsDirectories files files') (h' : AddsDirectories files' files'') :
    AddsDirectories files files'' := by
  intro location
  rcases h location with same | ⟨missing, made⟩ <;>
    rcases h' location with same' | ⟨missing', made'⟩
  · exact .inl (same'.trans same)
  · exact .inr ⟨same.symm.trans missing', made'⟩
  · exact .inr ⟨missing, same'.trans made⟩
  · cases made.symm.trans missing'

/-- What was there is there still. -/
theorem node? (h : AddsDirectories files files') {location : Location} {node : Node}
    (there : files.node? location = some node) : files'.node? location = some node := by
  rcases h location with same | ⟨missing, -⟩
  · exact same.trans there
  · cases missing.symm.trans there

end AddsDirectories

theorem node?_put (files : Files) (location other : Location) (node : Node) :
    (files.put location node).node? other =
      if other = location then some node else files.node? other := by
  show ((location, node) :: files.nodes.filter fun entry => entry.1 != location).lookup other = _
  rw [lookup_cons_eq_ite, lookup_filter_key]
  split <;> rfl

theorem node?_put_self (files : Files) (location : Location) (node : Node) :
    (files.put location node).node? location = some node := by
  rw [node?_put, if_pos rfl]

theorem node?_put_of_ne (files : Files) {location other : Location} (h : other ≠ location)
    (node : Node) : (files.put location node).node? other = files.node? other := by
  rw [node?_put, if_neg h]

theorem addsDirectories_put {location : Location} (missing : files.node? location = none) :
    AddsDirectories files (files.put location .directory) := by
  intro other
  by_cases own : other = location
  · subst other
    exact .inr ⟨missing, node?_put_self ..⟩
  · exact .inl (node?_put_of_ne files own _)

variable {location : Location}

theorem isDirectory_iff :
    files.isDirectory location = true ↔
      isGiven location = true ∨ files.node? location = some .directory := by
  rw [isDirectory, Bool.or_eq_true]
  refine or_congr Iff.rfl ?_
  split
  · exact iff_of_true rfl ‹_›
  · exact iff_of_false nofun ‹_›

theorem AddsDirectories.isDirectory (h : AddsDirectories files files')
    (hd : files.isDirectory location = true) : files'.isDirectory location = true :=
  isDirectory_iff.mpr ((isDirectory_iff.mp hd).imp_right h.node?)

/-- What takes the place of a file is no concern of directories, unless it is one. -/
theorem isDirectory_put (h : files.isDirectory location = false) (node : Node)
    (hnode : node ≠ .directory) (other : Location) :
    (files.put location node).isDirectory other = files.isDirectory other := by
  rw [Bool.eq_iff_iff, isDirectory_iff, isDirectory_iff, node?_put]
  split
  · subst other
    have hnone : ¬(isGiven location = true ∨ files.node? location = some .directory) := by
      rw [← isDirectory_iff, h]
      nofun
    rw [not_or] at hnone
    simp [hnone.1, hnone.2, hnode]
  · rfl

/-! ### Directories -/

section Ways

variable {isMaking : Bool} {step : String} {rest steps : List String}

theorem directory_or_missing_or_file (files : Files) (location : Location) :
    files.isDirectory location = true ∨
      files.isDirectory location = false ∧ files.node? location = none ∨
      files.isDirectory location = false ∧ ∃ node, files.node? location = some node := by
  cases hd : files.isDirectory location with
  | true => exact .inl rfl
  | false =>
    cases there : files.node? location with
    | none => exact .inr (.inl ⟨rfl, rfl⟩)
    | some node => exact .inr (.inr ⟨rfl, node, rfl⟩)

theorem ne_directory {node : Node} (h : files.isDirectory location = false)
    (there : files.node? location = some node) : node ≠ .directory := by
  rintro rfl
  exact Bool.eq_false_iff.mp h (isDirectory_iff.mpr (.inr there))

theorem enter_of_isDirectory (h : files.isDirectory location = true) (isTarget : Bool) :
    files.enter location isTarget = .ok files := by
  unfold enter
  rcases isDirectory_iff.mp h with hgiven | hnode
  · rw [if_pos hgiven]
  · rw [hnode]
    split <;> rfl

theorem not_isGiven_of_isDirectory (h : files.isDirectory location = false) :
    ¬isGiven location = true :=
  fun given => Bool.eq_false_iff.mp h (isDirectory_iff.mpr (.inl given))

/-- A directory on the way is passed. -/
theorem enterAll_of_isDirectory
    (h : files.isDirectory (FilePath.stepFrom location step) = true) :
    files.enterAll location isMaking (step :: rest) =
      files.enterAll (FilePath.stepFrom location step) isMaking rest := by
  simp [enterAll, enter_of_isDirectory h, h]

/-- A directory that is missing is made. -/
theorem enterAll_of_missing
    (h : files.isDirectory (FilePath.stepFrom location step) = false)
    (missing : files.node? (FilePath.stepFrom location step) = none) :
    files.enterAll location isMaking (step :: rest) =
      (files.put (FilePath.stepFrom location step) .directory).enterAll
        (FilePath.stepFrom location step) true rest := by
  simp [enterAll, enter, not_isGiven_of_isDirectory h, missing, h]

/-- A file ends the way. -/
theorem enterAll_of_file {node : Node}
    (h : files.isDirectory (FilePath.stepFrom location step) = false)
    (file : files.node? (FilePath.stepFrom location step) = some node) :
    files.enterAll location isMaking (step :: rest) =
      (.error (if isMaking || rest.isEmpty then .fileExists else .notDirectory), files) := by
  have other : node ≠ .directory := ne_directory h file
  have refused : files.enter (FilePath.stepFrom location step) (isMaking || rest.isEmpty) =
      .error (if isMaking || rest.isEmpty then .fileExists else .notDirectory) := by
    rw [enter, if_neg (not_isGiven_of_isDirectory h), file]
    cases node with
    | directory => exact absurd rfl other
    | text content => rfl
    | database content => rfl
  simp only [enterAll, refused]

theorem addsDirectories_enterAll (files : Files) (location : Location) (isMaking : Bool)
    (steps : List String) :
    AddsDirectories files (files.enterAll location isMaking steps).2 := by
  induction steps generalizing files location isMaking with
  | nil => exact .refl files
  | cons step rest ih =>
    rcases files.directory_or_missing_or_file (FilePath.stepFrom location step) with
      hd | ⟨hd, missing⟩ | ⟨hd, node, file⟩
    · rw [enterAll_of_isDirectory hd]
      exact ih _ _ _
    · rw [enterAll_of_missing hd missing]
      exact (addsDirectories_put missing).trans (ih _ _ _)
    · rw [enterAll_of_file hd file]
      exact .refl files

/-- Whether there is a directory behind each of some steps. -/
def areDirectories (files : Files) (location : Location) : List String → Prop
  | [] => True
  | step :: rest =>
    let next := FilePath.stepFrom location step
    files.isDirectory next = true ∧ files.areDirectories next rest

theorem areDirectories_of_imp
    (himp : ∀ other, files.isDirectory other = true → files'.isDirectory other = true)
    (h : files.areDirectories location steps) : files'.areDirectories location steps := by
  induction steps generalizing location with
  | nil => trivial
  | cons step rest ih => exact ⟨himp _ h.1, ih h.2⟩

theorem areDirectories_of_enterAll
    (h : files.enterAll location isMaking steps = (.ok (), files')) :
    files'.areDirectories location steps := by
  induction steps generalizing files location isMaking with
  | nil => trivial
  | cons step rest ih =>
    have adds := addsDirectories_enterAll files location isMaking (step :: rest)
    rw [h] at adds
    rcases files.directory_or_missing_or_file (FilePath.stepFrom location step) with
      hd | ⟨hd, missing⟩ | ⟨hd, node, file⟩
    · rw [enterAll_of_isDirectory hd] at h
      exact ⟨adds.isDirectory hd, ih h⟩
    · rw [enterAll_of_missing hd missing] at h
      have made := addsDirectories_enterAll
        (files.put (FilePath.stepFrom location step) .directory) (FilePath.stepFrom location step)
        true rest
      rw [h] at made
      -- what is created later leaves this directory where it is
      exact ⟨made.isDirectory (isDirectory_iff.mpr (.inr (node?_put_self ..))), ih h⟩
    · rw [enterAll_of_file hd file] at h
      cases h

theorem enterAll_of_areDirectories (h : files.areDirectories location steps) :
    files.enterAll location isMaking steps = (.ok (), files) := by
  induction steps generalizing location with
  | nil => rfl
  | cons step rest ih =>
    rw [enterAll_of_isDirectory h.1]
    exact ih h.2

end Ways

theorem addsDirectories_makeDirectories (files : Files) (path : String) :
    AddsDirectories files (files.makeDirectories path).2 := by
  rw [makeDirectories]
  split
  · exact .refl files
  · exact addsDirectories_enterAll files [] false (FilePath.steps path)

/-- Directories that have been made are found again, also among other files. -/
theorem makeDirectories_of_ok {path : String}
    (h : files.makeDirectories path = (.ok (), files'))
    (himp : ∀ other, files'.isDirectory other = true → files''.isDirectory other = true) :
    files''.makeDirectories path = (.ok (), files'') := by
  unfold makeDirectories at h ⊢
  split at h
  · cases h
  · rw [if_neg ‹_›]
    exact enterAll_of_areDirectories (areDirectories_of_imp himp (areDirectories_of_enterAll h))

end Files

/-! ### Databases -/

namespace Store

variable {path : String} {files files' files'' : Files} {store : Store}

/-- What there is to prepare of a path: nothing, or the directory above. -/
theorem prepare_cases (path : String) :
    ((∀ files, prepare path files = (.ok (), files)) ∧
        ∀ parent, FilePath.parent? path = some parent → parent = "") ∨
      ∃ parent, FilePath.parent? path = some parent ∧ ∀ files, prepare path files =
        ((files.makeDirectories parent).1.mapError (.noDirectory parent),
          (files.makeDirectories parent).2) := by
  cases hparent : FilePath.parent? path with
  | none => exact .inl ⟨fun files => by rw [prepare, hparent], nofun⟩
  | some parent =>
    by_cases hempty : parent.isEmpty = true
    · refine .inl ⟨fun files => by simp [prepare, hparent, hempty], ?_⟩
      rintro _ ⟨⟩
      exact String.isEmpty_iff.mp hempty
    · exact .inr ⟨parent, rfl, fun files => by simp [prepare, hparent, hempty]⟩

theorem addsDirectories_prepare (path : String) (files : Files) :
    files.AddsDirectories (prepare path files).2 := by
  rcases prepare_cases path with ⟨nothing, -⟩ | ⟨parent, -, making⟩
  · rw [nothing]
    exact .refl files
  · rw [making]
    exact Files.addsDirectories_makeDirectories files parent

theorem prepare_of_ok (h : prepare path files = (.ok (), files'))
    (himp : ∀ other, files'.isDirectory other = true → files''.isDirectory other = true) :
    prepare path files'' = (.ok (), files'') := by
  rcases prepare_cases path with ⟨nothing, -⟩ | ⟨parent, -, making⟩
  · exact nothing files''
  · rw [making] at h ⊢
    have made : files.makeDirectories parent = (.ok (), files') := by
      generalize files.makeDirectories parent = result at h ⊢
      obtain ⟨cause | ok, made⟩ := result
      · cases h
      · obtain rfl : made = files' := congrArg Prod.snd h
        rfl
    rw [Files.makeDirectories_of_ok made himp]
    rfl

/-- Whether a path stands for a database of one's own, which does not stay. -/
def isTransient (path : String) : Bool :=
  match Target.ofName path with
  | .ok (.own _) => true
  | .ok (.file _ _ _) => false
  | .error _ => false

/-- What opening a path leaves behind: the directory above, and a database where the path leads. -/
structure Opened (path : String) (location : Location) (readOnly : Bool) (files : Files) : Prop where
  prepared : prepare path files = (.ok (), files)
  nulPosition : nulPosition? path = none
  named : ∃ access isSealed, Target.ofName path = .ok (.file location access isSealed) ∧
    (Target.file location access isSealed).isReadOnly = readOnly
  isNotDirectory : files.isDirectory location = false
  isDatabase : ∃ content, files.node? location = some (.database content)

variable {location : Location} {readOnly : Bool}

/-- Another database in the place of the one that was opened. -/
theorem Opened.put (h : Opened path location readOnly files) (content : Database) :
    Opened path location readOnly (files.put location (.database content)) where
  prepared := by
    refine prepare_of_ok h.prepared fun other hd => ?_
    rwa [Files.isDirectory_put h.isNotDirectory (.database content) nofun]
  nulPosition := h.nulPosition
  named := h.named
  isNotDirectory := by
    rw [Files.isDirectory_put h.isNotDirectory (.database content) nofun, h.isNotDirectory]
  isDatabase := ⟨content, Files.node?_put_self ..⟩

section OpenFile

variable {access : Access} {isSealed : Bool}

theorem openFile_of_isDirectory (h : files.isDirectory location = true) :
    openFile path location access isSealed files =
      (.error (if access = .read then .unreadable else .unopenable path), files) := by
  simp [openFile, h]

theorem openFile_of_missing (h : files.isDirectory location = false)
    (missing : files.node? location = none) :
    openFile path location access isSealed files =
      if access = .create ∧ files.isDirectory location.dropLast then
        createTable location (Target.file location access isSealed).isReadOnly files
      else (.error (.unopenable path), files) := by
  simp [openFile, h, missing]

theorem openFile_of_text {content : String} (h : files.isDirectory location = false)
    (there : files.node? location = some (.text content)) :
    openFile path location access isSealed files =
      if content.isEmpty then
        createTable location (Target.file location access isSealed).isReadOnly files
      else (.error .notDatabase, files) := by
  simp [openFile, h, there]

theorem openFile_of_database {content : Database} (h : files.isDirectory location = false)
    (there : files.node? location = some (.database content)) :
    openFile path location access isSealed files =
      (.ok (.shared location (Target.file location access isSealed).isReadOnly), files) := by
  simp [openFile, h, there]

theorem createTable_ok (h : createTable location readOnly files = (.ok store, files')) :
    readOnly = false ∧ store = .shared location ∧
      files' = files.put location (.database .empty) := by
  unfold createTable at h
  split at h
  · cases h
  · cases h
    exact ⟨Bool.eq_false_iff.mpr ‹_›, rfl, rfl⟩

/-- The file at a location, or a new one in its place, becomes the database that is opened. -/
theorem openFile_ok (h : openFile path location access isSealed files = (.ok store, files')) :
    store = .shared location (Target.file location access isSealed).isReadOnly ∧
      files.isDirectory location = false ∧
      ((∃ content, files.node? location = some (.database content)) ∧ files' = files ∨
        store.isReadOnly = false ∧ files' = files.put location (.database .empty)) := by
  rcases files.directory_or_missing_or_file location with
    hd | ⟨hd, missing⟩ | ⟨hd, node, there⟩
  · rw [openFile_of_isDirectory hd] at h
    cases h
  · rw [openFile_of_missing hd missing] at h
    split at h
    · obtain ⟨writable, rfl, rfl⟩ := createTable_ok h
      exact ⟨by rw [writable], hd, .inr ⟨rfl, rfl⟩⟩
    · cases h
  · cases node with
    | directory => exact absurd rfl (Files.ne_directory hd there)
    | text content =>
      rw [openFile_of_text hd there] at h
      split at h
      · obtain ⟨writable, rfl, rfl⟩ := createTable_ok h
        exact ⟨by rw [writable], hd, .inr ⟨rfl, rfl⟩⟩
      · cases h
    | database content =>
      rw [openFile_of_database hd there] at h
      cases h
      exact ⟨rfl, hd, .inl ⟨⟨content, there⟩, rfl⟩⟩

end OpenFile

theorem attach_of_file {access : Access} {isSealed : Bool} (hnul : nulPosition? path = none)
    (hname : Target.ofName path = .ok (.file location access isSealed)) :
    attach path files = openFile path location access isSealed files := by
  simp [attach, hnul, hname]

/-- What is attached is a database of one's own, or the file at a location. -/
theorem attach_ok (h : attach path files = (.ok store, files')) :
    nulPosition? path = none ∧
      (isTransient path = true ∧ Target.ofName path = .ok (.own false) ∧ store = .own .empty ∧
          files' = files ∨
        isTransient path = false ∧ ∃ location access isSealed,
          Target.ofName path = .ok (.file location access isSealed) ∧
          openFile path location access isSealed files = (.ok store, files')) := by
  unfold attach at h
  unfold isTransient
  cases hnul : nulPosition? path with
  | some position =>
    rw [hnul] at h
    cases h
  | none =>
    rw [hnul] at h
    refine ⟨rfl, ?_⟩
    cases hname : Target.ofName path with
    | error cause =>
      rw [hname] at h
      cases h
    | ok target =>
      rw [hname] at h
      cases target with
      | own readOnly =>
        cases readOnly with
        | true => cases h
        | false =>
          cases h
          exact .inl ⟨rfl, rfl, rfl, rfl⟩
      | file location access isSealed => exact .inr ⟨rfl, location, access, isSealed, rfl, h⟩

/-- Opening fails where directories are made, or comes to what is attached then. -/
theorem openAt_cases (path : String) (files : Files) :
    (∃ cause made, prepare path files = (.error cause, made) ∧
        openAt path files = (.error cause, made)) ∨
      ∃ made, prepare path files = (.ok (), made) ∧ openAt path files = attach path made := by
  unfold openAt
  obtain ⟨cause | ok, made⟩ := prepare path files
  · exact .inl ⟨cause, made, rfl, rfl⟩
  · exact .inr ⟨made, rfl, rfl⟩

/-- What is opened was attached. -/
theorem exists_of_openAt_ok (h : openAt path files = (.ok store, files')) :
    ∃ made, prepare path files = (.ok (), made) ∧ attach path made = (.ok store, files') := by
  obtain ⟨_, _, -, herror⟩ | ⟨made, hprepare, hopen⟩ := openAt_cases path files
  · cases herror.symm.trans h
  · exact ⟨made, hprepare, hopen.symm.trans h⟩

/-- A transient path opens to an empty database. -/
theorem openAt_of_isTransient (ht : isTransient path = true)
    (h : openAt path files = (.ok store, files')) : store = .own .empty := by
  obtain ⟨made, -, hattach⟩ := exists_of_openAt_ok h
  obtain ⟨-, ⟨-, -, hstore, -⟩ | ⟨hstays, -⟩⟩ := attach_ok hattach
  · exact hstore
  · cases ht.symm.trans hstays

/-- A path that is not transient opens to the database where it leads. -/
theorem openAt_ok (ht : isTransient path = false) (h : openAt path files = (.ok store, files')) :
    ∃ location readOnly, store = .shared location readOnly ∧
      Opened path location readOnly files' := by
  obtain ⟨made, hprepare, hattach⟩ := exists_of_openAt_ok h
  obtain ⟨hnul, ⟨htransient, -⟩ | ⟨-, location, access, isSealed, hname, hfile⟩⟩ :=
    attach_ok hattach
  · cases ht.symm.trans htransient
  obtain ⟨hstore, hdirectory, hlast⟩ := openFile_ok hfile
  refine ⟨location, _, hstore, ?_⟩
  -- a new database is no directory, so that the directories above are still found
  rcases hlast with ⟨hdatabase, rfl⟩ | ⟨-, rfl⟩
  · exact ⟨prepare_of_ok hprepare fun _ => id, hnul, ⟨access, isSealed, hname, rfl⟩, hdirectory,
      hdatabase⟩
  · refine ⟨prepare_of_ok hprepare fun other hd => ?_, hnul, ⟨access, isSealed, hname, rfl⟩, ?_,
      .empty, Files.node?_put_self ..⟩
    · rwa [Files.isDirectory_put hdirectory (.database .empty) nofun]
    · rw [Files.isDirectory_put hdirectory (.database .empty) nofun, hdirectory]

theorem openAt_of_prepare_ok (h : prepare path files = (.ok (), files')) :
    openAt path files = attach path files' := by
  rw [openAt, h]

/-- A path that was opened opens to the same database, and nothing changes. -/
theorem openAt_of_opened (h : Opened path location readOnly files) :
    openAt path files = (.ok (.shared location readOnly), files) := by
  obtain ⟨content, hnode⟩ := h.isDatabase
  obtain ⟨access, isSealed, hname, hreadOnly⟩ := h.named
  rw [openAt_of_prepare_ok h.prepared, attach_of_file h.nulPosition hname,
    openFile_of_database h.isNotDirectory hnode, hreadOnly]

/-- A path opens a second time to what it has opened to, and nothing changes then. -/
theorem openAt_again (h : openAt path files = (.ok store, files')) :
    openAt path files' = (.ok store, files') := by
  cases ht : isTransient path with
  | true =>
    obtain ⟨made, hprepare, hattach⟩ := exists_of_openAt_ok h
    obtain ⟨hnul, ⟨-, hname, rfl, rfl⟩ | ⟨hstays, -⟩⟩ := attach_ok hattach
    · rw [openAt_of_prepare_ok (prepare_of_ok hprepare fun _ => id), hattach]
    · cases ht.symm.trans hstays
  | false =>
    obtain ⟨location, readOnly, rfl, opened⟩ := openAt_ok ht h
    exact openAt_of_opened opened

/-! ### What a path opens to -/

/-- The content that a path opens to, in a database that stays. -/
def OpensTo (path : String) (files : Files) (content : Database) : Prop :=
  isTransient path = false ∧ ∃ store files',
    openAt path files = (.ok store, files') ∧ store.content files' = content

theorem OpensTo.unique {content content' : Database} (h : OpensTo path files content)
    (h' : OpensTo path files content') : content = content' := by
  obtain ⟨-, store, opened, hopen, rfl⟩ := h
  obtain ⟨-, store', opened', hopen', rfl⟩ := h'
  cases hopen.symm.trans hopen'
  rfl

theorem content_shared {content : Database}
    (h : files.node? location = some (.database content)) :
    (Store.shared location readOnly).content files = content := by
  rw [Store.content, h]

/-- A store holds what its content was replaced by. -/
theorem content_replace (store : Store) (files : Files) (content : Database) :
    (store.replace files content).1.content (store.replace files content).2 = content := by
  cases store with
  | own before => rfl
  | shared location readOnly => exact content_shared (Files.node?_put_self ..)

theorem isReadOnly_replace (store : Store) (files : Files) (content : Database) :
    (store.replace files content).1.isReadOnly = store.isReadOnly := by
  cases store <;> rfl

/-- A store of a path that stays is a location, whatever it holds. -/
theorem replace_of_openAt (ht : isTransient path = false)
    (h : openAt path files = (.ok store, files')) (files'' : Files) (content : Database) :
    (store.replace files'' content).1 = store := by
  obtain ⟨location, readOnly, rfl, -⟩ := openAt_ok ht h
  rfl

/-- A path that stays opens to what its content was replaced by, and nothing changes then. -/
theorem openAt_replaced (ht : isTransient path = false)
    (h : openAt path files = (.ok store, files')) (content : Database) :
    openAt path (store.replace files' content).2 =
      (.ok store, (store.replace files' content).2) := by
  obtain ⟨location, readOnly, rfl, hopened⟩ := openAt_ok ht h
  exact openAt_of_opened (hopened.put content)

theorem write_of_isReadOnly (h : store.isReadOnly = true) (files : Files) (content : Database) :
    store.write files content = .error .readOnly := by
  rw [write, if_pos h]

theorem write_of_not_isReadOnly (h : store.isReadOnly = false) (files : Files)
    (content : Database) : store.write files content = .ok (store.replace files content) := by
  rw [write, if_neg (by simp [h])]

/-- A statement that succeeds replaces the content, if it may be written. -/
theorem bind_write_of_ok {result : Except StatementError Database} {content : Database}
    (hresult : result = .ok content) (h : store.isReadOnly = false) (files : Files) :
    result.bind (store.write files) = .ok (store.replace files content) := by
  rw [hresult]
  exact write_of_not_isReadOnly h files content

/-- A statement that would replace the content is refused, if nothing may be written. -/
theorem bind_write_of_isReadOnly {result : Except StatementError Database} {content : Database}
    (hresult : result = .ok content) (h : store.isReadOnly = true) (files : Files) :
    result.bind (store.write files) = .error .readOnly := by
  rw [hresult]
  exact write_of_isReadOnly h files content

theorem bind_write_ok {result : Except StatementError Database} {changed : Store × Files}
    (h : result.bind (store.write files) = .ok changed) :
    store.isReadOnly = false ∧ ∃ content, result = .ok content ∧
      changed = store.replace files content := by
  cases result with
  | error cause => cases h
  | ok content =>
    have hwrite : store.write files content = .ok changed := h
    cases hreadOnly : store.isReadOnly with
    | true =>
      rw [write_of_isReadOnly hreadOnly] at hwrite
      cases hwrite
    | false =>
      rw [write_of_not_isReadOnly hreadOnly] at hwrite
      exact ⟨rfl, content, rfl, (Except.ok.inj hwrite).symm⟩

/-- Opening a path: the database that is opened holds the content, and the path opens to
whatever takes the place of the content. -/
theorem OpensTo.openAt {content : Database} (h : OpensTo path files content) :
    ∃ store files', Store.openAt path files = (.ok store, files') ∧
      store.content files' = content ∧ OpensTo path files' content ∧
      ∀ next, OpensTo path (store.replace files' next).2 next := by
  obtain ⟨ht, store, files', hopen, hcontent⟩ := h
  refine ⟨store, files', hopen, hcontent, ⟨ht, store, files', openAt_again hopen, hcontent⟩,
    fun next => ⟨ht, store, _, openAt_replaced ht hopen next, ?_⟩⟩
  have held := content_replace store files' next
  rwa [replace_of_openAt ht hopen] at held

end Store

end EvalConsole
