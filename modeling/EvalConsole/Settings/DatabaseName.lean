/-
Names of databases.

A database is named by the path of its file, or by an address: `file:`, perhaps two slashes and the
host, the path with percent signs, and options behind a question mark. Options say whether the file
is only read, or whether it is created; some names stand for no file at all.

* `Target` is what a name stands for, `Target.ofName` reads a name.
* `DatabaseAddress` is an address in its parts, `DatabaseAddress.target` what it stands for.
-/
import EvalConsole.Settings.Files
import EvalConsole.Url.Percent

namespace EvalConsole

/-- What may be done to the file of a database. -/
inductive Access where
  | read
  /-- The file is written, but has to be there. -/
  | write
  /-- The file is written, and created if nothing is there. -/
  | create
  deriving DecidableEq, Repr

/-- What the name of a database stands for. -/
inductive Target where
  /-- A database that nobody else sees. -/
  | own (readOnly : Bool)
  /-- The file at a location. A sealed file is never written. -/
  | file (location : Location) (access : Access) (isSealed : Bool)
  deriving DecidableEq, Repr

/-- Why a name stands for nothing. -/
inductive NameError where
  /-- The host is another one. -/
  | badHost (text : String)
  | noAccess (text : String)
  /-- An earlier option has allowed less. -/
  | tooMuchAccess (text : String)
  | noCache (text : String)
  | noFileSystem (text : String)
  deriving DecidableEq, Repr

/-- The texts of a failure, from the outermost to its root. -/
def NameError.chain : NameError → List String
  | badHost text => ["invalid uri authority: " ++ text, "Error code 1: SQL logic error"]
  | noAccess text => ["no such access mode: " ++ text, "Error code 1: SQL logic error"]
  | tooMuchAccess text =>
    ["access mode not allowed: " ++ text, "Error code 3: access permission denied"]
  | noCache text => ["no such cache mode: " ++ text, "Error code 1: SQL logic error"]
  | noFileSystem text => ["no such vfs: " ++ text, "Error code 1: SQL logic error"]

/-- An address of a database, without its host. -/
structure DatabaseAddress where
  file : String
  options : List (String × String)

namespace DatabaseAddress

/-! ### Reading an address -/

/-- The bytes of a part of an address. A NUL ends them. -/
def bytesOf (part : List Char) : List UInt8 :=
  (Percent.decode part).takeWhile (· != 0)

/-- Pieces of bytes as the name of a file. Bytes that are no character stay apart from all
characters: a NUL, which no name holds, goes before each of them. -/
def spelled : List Utf8.Piece → List UInt8 → List Char
  | [], _ => []
  | .char c :: rest, bytes => c :: spelled rest (bytes.drop c.utf8Size)
  | .invalid n :: rest, bytes =>
    (bytes.take n).flatMap (fun b => ['\x00', Char.ofNat b.toNat]) ++ spelled rest (bytes.drop n)
  | .unfinished n :: rest, bytes =>
    (bytes.take n).flatMap (fun b => ['\x00', Char.ofNat b.toNat]) ++ spelled rest (bytes.drop n)

/-- The name of a file, as a part of an address gives it. -/
def fileOf (part : List Char) : String :=
  String.ofList (spelled (Utf8.pieces (bytesOf part)) (bytesOf part))

/-- An option: a name and, behind an equals sign, a value. -/
def optionOf (part : List Char) : String × String :=
  (Utf8.decodeLossy (bytesOf (part.takeWhile (· != '='))),
    Utf8.decodeLossy (bytesOf ((part.dropWhile (· != '=')).drop 1)))

/-- The address behind the host: up to a number sign, options behind the first question mark. An
option without a name is none. -/
def ofParts (s : List Char) : DatabaseAddress :=
  let s := s.takeWhile (· != '#')
  let options := Text.splitOn (· == '&') ((s.dropWhile (· != '?')).drop 1)
  ⟨fileOf (s.takeWhile (· != '?')), (options.map optionOf).filter fun option => option.1 != ""⟩

/-- Reads what stands behind `file:`. Behind two slashes there is a host, which is this one. -/
def read : List Char → Except NameError DatabaseAddress
  | '/' :: '/' :: rest =>
    let host := rest.takeWhile (· != '/')
    if host = [] ∨ host = "localhost".toList then .ok (ofParts (rest.dropWhile (· != '/')))
    else .error (.badHost (String.ofList host))
  | s => .ok (ofParts s)

/-! ### Options -/

/-- What an option may ask for: access to a file, or a database without one. -/
def modes : List (String × Option Access) :=
  [("ro", some .read), ("rw", some .write), ("rwc", some .create), ("memory", none)]

/-- Whether access is asked for that was not allowed before. A database without a file neither
asks for any nor sets a limit. -/
def exceeds : (wanted before : Option Access) → Bool
  | some .write, some .read => true
  | some .create, some .read => true
  | some .create, some .write => true
  | _, _ => false

/-- The access after one more option. -/
def settle (before : Option Access) (option : String × String) :
    Except NameError (Option Access) :=
  if option.1 = "mode" then
    match modes.lookup option.2 with
    | none => .error (.noAccess option.2)
    | some wanted => if exceeds wanted before then .error (.tooMuchAccess option.2) else .ok wanted
  else if option.1 = "cache" ∧ ¬ ["shared", "private"].contains option.2 then
    .error (.noCache option.2)
  else .ok before

/-- The value of a hexadecimal digit. -/
def digit (c : Char) : Nat :=
  ((Percent.hexValue? c.toNat.toUInt8).map UInt8.toNat).getD 0

/-- The number that a text starts with, if it takes no more than 31 bits. -/
def leadingNumber (s : List Char) : Nat :=
  let value (base : Nat) (digits : List Char) : Nat := digits.foldl (fun n c => n * base + digit c) 0
  let isHexDigit (c : Char) : Bool := c.isDigit || ('a' ≤ c.toLower && c.toLower ≤ 'f')
  let number :=
    match s with
    | '0' :: x :: rest =>
      if x.toLower = 'x' then value 16 (rest.takeWhile isHexDigit)
      else value 10 (s.takeWhile Char.isDigit)
    | _ => value 10 (s.takeWhile Char.isDigit)
  if number < 0x80000000 then number else 0

/-- Whether the value of an option says yes. Of a number the last byte counts. -/
def isYes (value : String) : Bool :=
  if (value.toList.head?.map Char.isDigit).getD false then leadingNumber value.toList % 256 != 0
  else ["on", "yes", "true"].contains (String.ofList (value.toList.map Char.toLower))

/-- The kinds of access to files that there are; the last one keeps databases in memory. -/
def fileSystems : List String :=
  ["unix", "unix-none", "unix-dotfile", "unix-excl", "memdb"]

/-- What an address stands for. Of options for the kind of access to files the last one counts, of
those that seal a file the first one. -/
def target (a : DatabaseAddress) : Except NameError Target :=
  match a.options.foldlM settle (some .create) with
  | .error cause => .error cause
  | .ok mode =>
    let fileSystem := (((a.options.filter (·.1 == "vfs")).getLast?).map Prod.snd).getD "unix"
    let isSealed := ((a.options.lookup "immutable").map isYes).getD false
    if fileSystems.contains fileSystem then
      match mode with
      | none => .ok (.own false)
      | some access =>
        if a.file = "" ∨ a.file = ":memory:" then .ok (.own (access == .read))
        else if fileSystem = "memdb" then .ok (.own (access == .read || isSealed))
        else .ok (.file (FilePath.location a.file) access isSealed)
    else .error (.noFileSystem fileSystem)

end DatabaseAddress

namespace Target

/-- What stands behind `file:` in a name that is an address. -/
def address? : List Char → Option (List Char)
  | 'f' :: 'i' :: 'l' :: 'e' :: ':' :: rest => some rest
  | _ => none

/-- What a name stands for. A name that is no address is a path, or one of two texts that stand for
a database of one's own. -/
def ofName (name : String) : Except NameError Target :=
  match address? name.toList with
  | some rest => (DatabaseAddress.read rest).bind DatabaseAddress.target
  | none =>
    if name = "" ∨ name = ":memory:" then .ok (.own false)
    else .ok (.file (FilePath.location name) .create false)

/-- Whether nothing is ever written. -/
def isReadOnly : Target → Bool
  | own readOnly => readOnly
  | file _ access isSealed => access == .read || isSealed

end Target

end EvalConsole
