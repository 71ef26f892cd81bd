/-
Settings kept in a database.

A store is an open database: one at a location, whose content outlives the store, or
one of its own that is gone with the store. Opening creates what is missing, unless the name of
the database forbids it.

* `Store.openAt` opens the database that a path names.
* `Store.get?`, `Store.set` and `Store.remove` are the operations on an open store.
-/
import EvalConsole.Settings.DatabaseName

namespace EvalConsole

/-- Why a database cannot be opened. -/
inductive OpenError where
  /-- The directory above cannot be created. -/
  | noDirectory (parent : String) (cause : DirectoryError)
  /-- The path holds a NUL. -/
  | nul (position : Nat)
  /-- The path names nothing. -/
  | badName (cause : NameError)
  /-- There is a directory where the path leads, or there is nothing and nothing is created. -/
  | unopenable (path : String)
  /-- There is a directory that was to be read only. -/
  | unreadable
  /-- There is a file where the path leads that is no database. -/
  | notDatabase
  /-- There is no table, and nothing may be written. -/
  | unwritable
  deriving DecidableEq, Repr

/-- The texts of a failure, from the outermost to its root. -/
def OpenError.chain : OpenError → List String
  | noDirectory parent cause => ["failed to create " ++ parent, cause.message]
  | nul position =>
    let text := s!"nul byte found in provided data at position: {position}"
    ["failed to open config database", text, text]
  | badName cause => "failed to open config database" :: cause.chain
  | unopenable path =>
    ["failed to open config database", "unable to open database file: " ++ path,
      "Error code 14: unable to open database file"]
  | unreadable =>
    ["failed to open config database", "disk I/O error", "Error code 10: disk I/O error"]
  | notDatabase =>
    ["failed to create config table", "file is not a database",
      "Error code 26: file is not a database"]
  | unwritable => "failed to create config table" :: StatementError.readOnly.chain

/-- An open database. -/
inductive Store where
  /-- The database at a location; it may be open for reading only. -/
  | shared (location : Location) (readOnly : Bool := false)
  /-- A database that nobody else sees. -/
  | own (content : Database)

namespace Store

/-- How many bytes stand before the first NUL of a path, if it has one. -/
def nulPosition? (path : String) : Option Nat :=
  let before := path.toList.takeWhile (· != '\x00')
  if before.length = path.toList.length then none
  else some (Utf8.byteCount before)

/-- Creates the directory above a path, if the path has one. -/
def prepare (path : String) (files : Files) : Except OpenError Unit × Files :=
  match FilePath.parent? path with
  | none => (.ok (), files)
  | some parent =>
    if parent.isEmpty then (.ok (), files)
    else
      let (made, files) := files.makeDirectories parent
      (made.mapError (.noDirectory parent), files)

/-- Makes the table in an empty file at a location, or in a new one. A file that may not be written
stays empty. -/
def createTable (location : Location) (readOnly : Bool) (files : Files) :
    Except OpenError Store × Files :=
  if readOnly then (.error .unwritable, files.put location (.text ""))
  else (.ok (.shared location), files.put location (.database .empty))

/-- Opens the database at a location that a path leads to. -/
def openFile (path : String) (location : Location) (access : Access) (isSealed : Bool)
    (files : Files) : Except OpenError Store × Files :=
  let readOnly := (Target.file location access isSealed).isReadOnly
  if files.isDirectory location then
    (.error (if access = .read then .unreadable else .unopenable path), files)
  else
    match files.node? location with
    | some (.database _) => (.ok (.shared location readOnly), files)
    | some (.text content) =>
      if content.isEmpty then createTable location readOnly files else (.error .notDatabase, files)
    | _ =>
      if access = .create ∧ files.isDirectory location.dropLast then
        createTable location readOnly files
      else (.error (.unopenable path), files)

/-- Opens the database that a path names, once the directory above is there. -/
def attach (path : String) (files : Files) : Except OpenError Store × Files :=
  match nulPosition? path with
  | some position => (.error (.nul position), files)
  | none =>
    match Target.ofName path with
    | .error cause => (.error (.badName cause), files)
    | .ok (.own readOnly) => (if readOnly then .error .unwritable else .ok (.own .empty), files)
    | .ok (.file location access isSealed) => openFile path location access isSealed files

/-- Opens the database that a path names. What was created stays even if the database cannot be
opened. -/
def openAt (path : String) (files : Files) : Except OpenError Store × Files :=
  match prepare path files with
  | (.error failure, files) => (.error failure, files)
  | (.ok (), files) => attach path files

/-- What a store holds. -/
def content (store : Store) (files : Files) : Database :=
  match store with
  | own content => content
  | shared location _ =>
    match files.node? location with
    | some (.database content) => content
    | _ => .empty

/-- Whether what a store holds cannot be changed. -/
def isReadOnly : Store → Bool
  | own _ => false
  | shared _ readOnly => readOnly

/-- Replaces what a store holds. -/
def replace (store : Store) (files : Files) (content : Database) : Store × Files :=
  match store with
  | own _ => (.own content, files)
  | shared location _ => (store, files.put location (.database content))

/-- What a statement leaves behind that would replace what a store holds. -/
def write (store : Store) (files : Files) (content : Database) :
    Except StatementError (Store × Files) :=
  if store.isReadOnly then .error .readOnly else .ok (store.replace files content)

/-- The value of a key. -/
def get? (store : Store) (files : Files) (key : String) :
    Except StatementError (Option String) :=
  (store.content files).get? key

/-- Gives a key a value. -/
def set (store : Store) (files : Files) (key value : String) :
    Except StatementError (Store × Files) :=
  ((store.content files).set key value).bind (store.write files)

/-- Removes a key. -/
def remove (store : Store) (files : Files) (key : String) :
    Except StatementError (Store × Files) :=
  ((store.content files).remove key).bind (store.write files)

end Store

end EvalConsole
