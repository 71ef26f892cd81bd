/-
Files and directories.

A path is a text with slashes; where it leads is a location, the list of names on the
way. Files are kept by location, so that two paths to one location see one file.

* `FilePath.parent?` is the text of the path above, `FilePath.joined` the path below.
* `Files` maps locations to directories, plain files and databases.
* `Files.makeDirectories` creates a directory with all directories above it.
-/
import EvalConsole.Settings.Database
import EvalConsole.Text.Split

namespace EvalConsole

/-- The names on the way to a file. The first one is a slash on the way from the root;
the name of the directory above occurs in front only. -/
abbrev Location := List String

namespace FilePath

open Text

/-- The fields of a path between slashes. -/
def fields (path : String) : List (List Char) :=
  splitOn (· == '/') path.toList

/-- Whether a path starts at the root. -/
def isAbsolute (path : String) : Bool :=
  path.toList.head? == some '/'

/-- Whether the field with an index is a step of a path: empty ones are none, nor are
single dots except in front. -/
def isStep (index : Nat) (field : List Char) : Bool :=
  !field.isEmpty && !(field == ['.'] && index != 0)

/-- How many fields of a path reach up to its last step. -/
def lengthToLastStep (fields : List (List Char)) : Nat :=
  fields.zipIdx.foldl (fun n (field, index) => if isStep index field then index + 1 else n) 0

/-- The text of the path above, if the path has a step at all. It is written as in the
path, up to its own last step. -/
def parent? (path : String) : Option String :=
  let all := fields path
  match lengthToLastStep all with
  | 0 => none
  | last + 1 =>
    match lengthToLastStep (all.take last) with
    | 0 => some (if isAbsolute path then "/" else "")
    | n => some (String.ofList (join '/' (all.take n)))

/-- A path with a name added to it. -/
def joined (path name : String) : String :=
  if path.isEmpty ∨ path.toList.getLast? = some '/' then path ++ name else path ++ "/" ++ name

/-- Whether nothing stands behind the last slash of a path, or a single dot. -/
def endsBehindSlash (path : String) : Bool :=
  (fields path).getLast?.any fun field => field.isEmpty || field == ['.']

/-- The steps of a path, single dots left out. -/
def steps (path : String) : List String :=
  (if isAbsolute path then ["/"] else [])
    ++ ((fields path).filter fun field => !field.isEmpty && field != ['.']).map String.ofList

/-- The location that a step leads to. -/
def stepFrom (location : Location) (step : String) : Location :=
  if step = ".." then
    match location.getLast? with
    | none => [step]
    | some ".." => location ++ [step]
    | some "/" => location
    | some _ => location.dropLast
  else location ++ [step]

/-- The location that a path leads to. -/
def location (path : String) : Location :=
  (steps path).foldl stepFrom []

end FilePath

/-- What is at a location. -/
inductive Node where
  | directory
  | text (content : String)
  | database (content : Database)

/-- Files and directories by location. The directory that paths start from, the root and
the directories above are always there. -/
structure Files where
  nodes : List (Location × Node)

/-- Why a directory cannot be created. -/
inductive DirectoryError where
  /-- A file has its name. -/
  | fileExists
  /-- A file has the name of a directory above. -/
  | notDirectory
  /-- The path holds a NUL. -/
  | nul
  deriving DecidableEq, Repr

/-- The words for a failure. -/
def DirectoryError.message : DirectoryError → String
  | fileExists => "File exists (os error 17)"
  | notDirectory => "Not a directory (os error 20)"
  | nul => "file name contained an unexpected NUL byte"

namespace Files

/-- No files. -/
def empty : Files :=
  ⟨[]⟩

/-- What is at a location, if anything was put there. -/
def node? (files : Files) (location : Location) : Option Node :=
  files.nodes.lookup location

/-- Puts something at a location. -/
def put (files : Files) (location : Location) (node : Node) : Files :=
  ⟨(location, node) :: files.nodes.filter fun entry => entry.1 != location⟩

/-- Whether a location is there in any case. -/
def isGiven (location : Location) : Bool :=
  location.all (· == "..") || location == ["/"]

/-- Whether there is a directory at a location. -/
def isDirectory (files : Files) (location : Location) : Bool :=
  isGiven location ||
    match files.node? location with
    | some .directory => true
    | _ => false

/-- Goes on to a directory below, which is created if there is nothing. `isTarget` says
whether it is this directory that is to be made. -/
def enter (files : Files) (location : Location) (isTarget : Bool) : Except DirectoryError Files :=
  if isGiven location then .ok files
  else
    match files.node? location with
    | none => .ok (files.put location .directory)
    | some .directory => .ok files
    | some _ => .error (if isTarget then .fileExists else .notDirectory)

/-- Goes along steps, creating the directories that are missing. Up to the first missing one
the way is only looked up; from there on each directory is to be made in turn, as `isMaking`
says. What has been created stays when the way ends at a file. -/
def enterAll (files : Files) (location : Location) (isMaking : Bool) :
    (steps : List String) → Except DirectoryError Unit × Files
  | [] => (.ok (), files)
  | step :: rest =>
    let next := FilePath.stepFrom location step
    match files.enter next (isMaking || rest.isEmpty) with
    | .ok entered => enterAll entered next (isMaking || !files.isDirectory next) rest
    | .error failure => (.error failure, files)

/-- Creates the directory that a path leads to, with all directories above it. -/
def makeDirectories (files : Files) (path : String) : Except DirectoryError Unit × Files :=
  if path.toList.contains '\x00' then (.error .nul, files)
  else files.enterAll [] false (FilePath.steps path)

/-- Puts something where a path leads, with the directories above it if they can be
created. -/
def place (files : Files) (path : String) (node : Node) : Files :=
  let files :=
    match (FilePath.parent? path).map files.makeDirectories with
    | some (.ok (), files) => files
    | _ => files
  files.put (FilePath.location path) node

/-- Whether there is a file or a directory where a path leads: everything on the way has
to be a directory. -/
def existsFrom (files : Files) (location : Location) : (steps : List String) → Bool
  | [] => isGiven location || (files.node? location).isSome
  | step :: rest => files.isDirectory location && existsFrom files (FilePath.stepFrom location step) rest

/-- Whether there is a file or a directory where a path leads. Only a directory is there when the
path ends with a slash, and nothing when it holds a NUL. -/
def contains (files : Files) (path : String) : Bool :=
  !path.isEmpty && !path.toList.contains '\x00' && files.existsFrom [] (FilePath.steps path) &&
    (!FilePath.endsBehindSlash path || files.isDirectory (FilePath.location path))

end Files

end EvalConsole
