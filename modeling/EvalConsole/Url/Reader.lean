/-
Reading addresses.

Controls and blanks at the ends of a text and tabs and line ends anywhere in it do not
count. What follows depends on the scheme: behind `http` and the like a server has to
be named, however many slashes there are, and a backslash is a slash; behind other schemes a
server is named by two slashes. A text without a scheme is a reference, to be read
relative to another address.

* `Url.parse` reads an address, `Url.resolve` reads a reference too.

Design notes
------------
Reading goes from left to right through the parts, and the first fault counts. The
letters of drives in the paths of files are not treated: no file is ever fetched.
-/
import EvalConsole.Url.Basic
import EvalConsole.Text.Blank

namespace EvalConsole

namespace Url

/-- A text without what does not count. -/
def clean (s : List Char) : List Char :=
  let outer (c : Char) : Bool := c.toNat ≤ 0x20
  (Text.dropEndWhile outer (s.dropWhile outer)).filter fun c =>
    c != '\t' && c != '\n' && c != '\r'

/-- Whether a character may stand behind the first letter of a scheme. -/
def isSchemeChar (c : Char) : Bool :=
  c.isAlphanum || c == '+' || c == '-' || c == '.'

/-- The scheme of a text in small letters, and what follows its colon. -/
def splitScheme? (s : List Char) : Option (List Char × List Char) :=
  match s with
  | [] => none
  | c :: _ =>
    if c.isAlpha then
      match s.dropWhile isSchemeChar with
      | ':' :: rest => some ((s.takeWhile isSchemeChar).map Char.toLower, rest)
      | _ => none
    else none

/-- Whether a character divides the segments of a path. -/
def isSlash (special : Bool) (c : Char) : Bool :=
  c == '/' || (special && c == '\\')

/-- Whether a character ends the part of a text that names a server. -/
def endsServer (special : Bool) (c : Char) : Bool :=
  isSlash special c || c == '?' || c == '#'

/-! ### User, host, port -/

/-- The user that the text before an at sign names: the first colon starts the password. -/
def readUserinfo (s : List Char) : Userinfo :=
  { user := Percent.encode Percent.userinfo (s.takeWhile (· != ':'))
    password := Percent.encode Percent.userinfo ((s.dropWhile (· != ':')).drop 1) }

/-- Divides the text that names a server behind its last at sign, if it has one. -/
def splitUserinfo? (server : List Char) : Option (List Char × List Char) :=
  let host := (server.reverse.takeWhile (· != '@')).reverse
  if host.length = server.length then none
  else some (server.take (server.length - host.length - 1), host)

/-- Divides a text before the first colon that is not between brackets. -/
def splitPort (inBrackets : Bool) : List Char → List Char × List Char
  | [] => ([], [])
  | c :: rest =>
    if c = ':' ∧ !inBrackets then ([], c :: rest)
    else
      let inside := if c = '[' then true else if c = ']' then false else inBrackets
      let (host, port) := splitPort inside rest
      (c :: host, port)

/-- The text that names a server, at the start of a text behind two slashes. Behind a
port a backslash ends it in any case. -/
def serverText (special : Bool) (s : List Char) : List Char :=
  let text := s.takeWhile fun c => !endsServer special c
  let host := ((splitUserinfo? text).map Prod.snd).getD text
  let beyond := (splitPort false host).2.dropWhile fun c => c != '\\'
  text.take (text.length - beyond.length)

/-- The port behind a colon; no digits stand for the default. -/
def readPort (scheme s : List Char) : Except UrlError (Option UInt16) :=
  let n := s.foldl (fun n c => n * 10 + (c.toNat - '0'.toNat)) 0
  if !s.all Char.isDigit ∨ 65535 < n then .error .invalidPort
  else if s.isEmpty ∨ defaultPort? scheme = some n.toUInt16 then .ok none
  else .ok (some n.toUInt16)

/-- The user, the host and the port of a server. -/
structure Server where
  userinfo : Userinfo
  host : Option Host
  port : Option UInt16
  deriving DecidableEq

/-- The server of a user and of the text that names the host and the port. -/
def serverOf (scheme : List Char) (userinfo : Userinfo) (s : List Char) :
    Except UrlError Server := do
  let (hostText, portText) := splitPort false s
  let host ←
    if isSpecial scheme then
      if hostText.isEmpty then throw .emptyHost else (Host.parse hostText).map some
    else Host.parsePlain hostText
  if host = none ∧ !portText.isEmpty then throw .emptyHost
  let port ← match portText with
    | [] => pure none
    | _ :: digits => readPort scheme digits
  if host = none ∧ userinfo ≠ .anonymous then throw .emptyHost
  return ⟨userinfo, host, port⟩

/-- The server that a text names; `ended` says that a delimiter follows the text. -/
def readServer (scheme : List Char) (ended : Bool) (s : List Char) : Except UrlError Server :=
  match splitUserinfo? s with
  | none => serverOf scheme .anonymous s
  | some ([], rest) =>
    if rest.isEmpty ∧ ended then .error .emptyHost else serverOf scheme .anonymous rest
  | some (user, rest) => serverOf scheme (readUserinfo user) rest

/-! ### Path, query, fragment -/

/-- Whether a segment stands for the directory itself. -/
def isSingleDot (segment : List Char) : Bool :=
  segment == ['.'] || segment.map Char.toLower == "%2e".toList

/-- Whether a segment stands for the directory above. -/
def isDoubleDot (segment : List Char) : Bool :=
  ["..", ".%2e", "%2e.", "%2e%2e"].any fun dots => segment.map Char.toLower == dots.toList

/-- Adds written segments to a path; the last one names a directory if it is dots. -/
def addSegments (path : List (List Char)) : List (List Char) → List (List Char)
  | [] => path
  | segment :: rest =>
    let last (path : List (List Char)) := if rest.isEmpty then path ++ [[]] else path
    let path :=
      if isDoubleDot segment then last path.dropLast
      else if isSingleDot segment then last path
      else path ++ [Percent.encode Percent.path segment]
    addSegments path rest

/-- The path of a text that starts with a slash or is empty, on top of another path. -/
def readSegments (special : Bool) (base : List (List Char)) (s : List Char) :
    List (List Char) :=
  addSegments base (Text.splitOn (isSlash special) s)

/-- Divides a text into what is before its query, its query and its fragment. -/
def splitEnd (special : Bool) (s : List Char) :
    List Char × Option (List Char) × Option (List Char) :=
  let before := s.takeWhile fun c => c != '#'
  let fragment :=
    match s.dropWhile fun c => c != '#' with
    | [] => none
    | _ :: text => some (Percent.encode Percent.fragment text)
  let query :=
    match before.dropWhile fun c => c != '?' with
    | [] => none
    | _ :: text => some (Percent.encode (Percent.query special) text)
  (before.takeWhile fun c => c != '?', query, fragment)

/-- The address of a server and of the text behind it. -/
def withRest (scheme : List Char) (server : Server) (rest : List Char) : Url :=
  let special := isSpecial scheme
  let (path, query, fragment) := splitEnd special rest
  let segments :=
    match path with
    | [] => if special then [[]] else []
    | c :: tail =>
      if isSlash special c then readSegments special [] tail
      else readSegments special [] path
  { scheme, userinfo := server.userinfo, host := server.host, port := server.port,
    path := .segments segments, query, fragment }

/-- The address behind the two slashes that announce a server. -/
def readAfterSlashes (scheme s : List Char) : Except UrlError Url := do
  let text := serverText (isSpecial scheme) s
  let rest := s.drop text.length
  let server ← readServer scheme (!rest.isEmpty) text
  return withRest scheme server rest

/-- The address of a file behind its scheme: a server only behind two slashes. -/
def readFile (scheme s : List Char) : Except UrlError Url := do
  let noServer : Server := ⟨.anonymous, none, none⟩
  match s with
  | a :: b :: rest =>
    if isSlash true a ∧ isSlash true b then
      let inServer (c : Char) : Bool := !endsServer true c
      let hostText := rest.takeWhile inServer
      let isDrive : Bool := match hostText with
        | [letter, mark] => letter.isAlpha && (mark == ':' || mark == '|')
        | _ => false
      if hostText.isEmpty ∨ isDrive then return withRest scheme noServer ('/' :: rest)
      else
        let host ← Host.parse hostText
        let host := if host = .name "localhost".toList then none else some host
        return withRest scheme { noServer with host } (rest.dropWhile inServer)
    else return withRest scheme noServer (if isSlash true a then s else '/' :: s)
  | _ => return withRest scheme noServer ('/' :: s)

/-- The address behind a scheme. -/
def readAfterScheme (scheme s : List Char) : Except UrlError Url :=
  if isFile scheme then readFile scheme s
  else if isSpecial scheme then
    readAfterSlashes scheme (s.dropWhile (isSlash true))
  else
    match s with
    | '/' :: '/' :: rest => readAfterSlashes scheme rest
    | '/' :: _ => .ok (withRest scheme ⟨.anonymous, none, none⟩ s)
    | _ =>
      let (path, query, fragment) := splitEnd false s
      .ok { scheme, userinfo := .anonymous, host := none, port := none,
            path := .plain (Percent.encode Percent.control path), query, fragment }

/-- The address that a text denotes. -/
def parse (s : String) : Except UrlError Url :=
  match splitScheme? (clean s.toList) with
  | some (scheme, rest) => readAfterScheme scheme rest
  | none => .error .noBase

/-! ### References -/

/-- The address that a reference without a scheme denotes, relative to an address whose
path is divided. -/
def readRelative (base : Url) (segments : List (List Char)) (s : List Char) :
    Except UrlError Url :=
  let special := isSpecial base.scheme
  let server : Server := ⟨base.userinfo, base.host, base.port⟩
  match s with
  | [] => .ok { base with fragment := none }
  | c :: rest =>
    if isSlash special c then
      match rest with
      | [] => .ok (withRest base.scheme server s)
      | d :: rest =>
        if isSlash special d then
          readAfterSlashes base.scheme (if special then rest.dropWhile (isSlash true) else rest)
        else .ok (withRest base.scheme server s)
    else
      let (path, query, fragment) := splitEnd special s
      if c = '#' then .ok { base with fragment }
      else if c = '?' then .ok { base with query, fragment }
      else
        .ok { base with
          path := .segments (readSegments special segments.dropLast path), query, fragment }

/-- The address that a reference denotes, relative to another address. Behind the scheme of
a server that the base has too, the slashes may be missing. -/
def resolve (base : Url) (reference : String) : Except UrlError Url :=
  let s := clean reference.toList
  match splitScheme? s, base.path with
  | some (scheme, rest), .segments segments =>
    if isSpecial scheme ∧ scheme = base.scheme ∧ !isFile scheme then
      match rest with
      | a :: b :: _ =>
        if isSlash true a ∧ isSlash true b then readAfterScheme scheme rest
        else readRelative base segments rest
      | _ => readRelative base segments rest
    else readAfterScheme scheme rest
  | some (scheme, rest), .plain _ => readAfterScheme scheme rest
  | none, .segments segments => readRelative base segments s
  | none, .plain _ =>
    match s with
    | '#' :: _ => .ok { base with fragment := (splitEnd false s).2.2 }
    | _ => .error .baseWithoutPath

end Url

end EvalConsole
