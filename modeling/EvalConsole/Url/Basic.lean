/-
Addresses of the web.

* `Url` is an address in its parts; `Url.text` puts the parts together.
-/
import EvalConsole.Url.Host

namespace EvalConsole

/-- Who asks: a user name and a password, percent signs included; either may be empty. -/
structure Userinfo where
  user : List Char
  password : List Char
  deriving DecidableEq, Repr

namespace Userinfo

/-- Nobody. -/
def anonymous : Userinfo :=
  ⟨[], []⟩

/-- The user, and the password behind a colon if there is one, before an at sign; nothing
for nobody. -/
def text (u : Userinfo) : List Char :=
  if u.user.isEmpty ∧ u.password.isEmpty then []
  else u.user ++ (if u.password.isEmpty then [] else ':' :: u.password) ++ ['@']

end Userinfo

/-- How an address goes on behind its server. -/
inductive Path where
  /-- Segments, each behind a slash. -/
  | segments (all : List (List Char))
  /-- A text that is not divided. -/
  | plain (text : List Char)
  deriving DecidableEq, Repr

/-- The text of a path. -/
def Path.text : Path → List Char
  | segments all => all.flatMap fun segment => '/' :: segment
  | plain text => text

/-- An address. -/
structure Url where
  scheme : List Char
  userinfo : Userinfo
  host : Option Host
  /-- The port, if it is not the default of the scheme. -/
  port : Option UInt16
  path : Path
  query : Option (List Char)
  fragment : Option (List Char)
  deriving DecidableEq

namespace Url

/-- The port that a scheme implies. -/
def defaultPort? (scheme : List Char) : Option UInt16 :=
  if scheme = "http".toList ∨ scheme = "ws".toList then some 80
  else if scheme = "https".toList ∨ scheme = "wss".toList then some 443
  else if scheme = "ftp".toList then some 21
  else none

/-- Whether a scheme is that of files. -/
def isFile (scheme : List Char) : Bool :=
  scheme == "file".toList

/-- Whether addresses behind a scheme always name a server, files aside. -/
def isSpecial (scheme : List Char) : Bool :=
  (defaultPort? scheme).isSome || isFile scheme

/-- The host and the port. -/
def hostText (url : Url) : List Char :=
  (url.host.map Host.text).getD []
    ++ (match url.port with
      | some port => ':' :: Nat.toDigits 10 port.toNat
      | none => [])

/-- A text behind a mark, if there is a text. -/
def marked (mark : Char) : Option (List Char) → List Char
  | some text => mark :: text
  | none => []

/-- The text of an address. -/
def chars (url : Url) : List Char :=
  url.scheme ++ ':' ::
    (match url.host with
      | some _ => '/' :: '/' :: url.userinfo.text ++ url.hostText
      | none => if isFile url.scheme then ['/', '/'] else [])
    ++ url.path.text ++ marked '?' url.query ++ marked '#' url.fragment

/-- The text of an address. -/
def text (url : Url) : String :=
  String.ofList url.chars

/-- The address without the user. -/
def withoutUser (url : Url) : Url :=
  { url with userinfo := .anonymous }

/-- The address without its fragment. -/
def withoutFragment (url : Url) : Url :=
  { url with fragment := none }

/-- The port that the server listens on. -/
def effectivePort? (url : Url) : Option UInt16 :=
  url.port.orElse fun _ => defaultPort? url.scheme

end Url

end EvalConsole
