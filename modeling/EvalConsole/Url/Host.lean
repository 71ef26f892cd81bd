/-
Hosts of addresses.

Behind `http` and the like a host is a name in ASCII or a numeric address; behind other
schemes it is any text without delimiters.

* `Host.parse` reads a host of the first kind, `Host.parsePlain` one of the second.
* `Host.text` writes a host.
-/
import EvalConsole.Url.Domain
import EvalConsole.Url.Ipv6
import EvalConsole.Url.Percent

namespace EvalConsole

/-- Why a text is no address. -/
inductive UrlError where
  | emptyHost
  | invalidPort
  | invalidIpv4
  | invalidIpv6
  /-- A delimiter in a host that is kept as it is. -/
  | invalidHostCharacter
  /-- A name that has no ASCII form, or one with a delimiter. -/
  | invalidName
  /-- No scheme, and nothing to be relative to. -/
  | noBase
  /-- A reference to be read relative to an address that has no path. -/
  | baseWithoutPath
  deriving DecidableEq, Repr

/-- The words for a failure. -/
def UrlError.message : UrlError → String
  | emptyHost => "empty host"
  | invalidPort => "invalid port number"
  | invalidIpv4 => "invalid IPv4 address"
  | invalidIpv6 => "invalid IPv6 address"
  | invalidHostCharacter => "invalid domain character"
  | invalidName => "invalid international domain name"
  | noBase => "relative URL without a base"
  | baseWithoutPath => "relative URL with a cannot-be-a-base base"

/-- A host that is not empty. -/
inductive Host where
  | name (ascii : List Char)
  | ipv4 (address : UInt32)
  | ipv6 (address : Ipv6)
  /-- A host behind a scheme that does not look into it. -/
  | plain (text : List Char)
  deriving DecidableEq

namespace Host

/-- The text of a host in an address. -/
def text : Host → List Char
  | name ascii => ascii
  | ipv4 address => Ipv4.text address
  | ipv6 address => '[' :: address.text ++ [']']
  | plain text => text

/-- The address between brackets, behind the opening one. -/
def parseBracketed (s : List Char) : Except UrlError Host :=
  if s.getLast? == some ']' then
    match Ipv6.parse? s.dropLast with
    | some address => .ok (.ipv6 address)
    | none => .error .invalidIpv6
  else .error .invalidIpv6

/-- The host that a name in ASCII denotes: a numeric address if its last part is a number. -/
def ofAscii (ascii : List Char) : Except UrlError Host :=
  if ascii.isEmpty then .error .emptyHost
  else if Ipv4.endsInNumber ascii then
    match Ipv4.parse? ascii with
    | some address => .ok (.ipv4 address)
    | none => .error .invalidIpv4
  else .ok (.name ascii)

/-- The host that a text denotes behind `http` and the like. -/
def parse (s : List Char) : Except UrlError Host :=
  match s with
  | '[' :: rest => parseBracketed rest
  | _ =>
    match Utf8.decode (Percent.decode s) with
    | .error _ => .error .invalidName
    | .ok decoded =>
      match Domain.toAscii? decoded.toList with
      | none => .error .invalidName
      | some ascii => ofAscii ascii

/-- The characters that delimit the parts of an address. -/
def isDelimiter (c : Char) : Bool :=
  ['\x00', '\t', '\n', '\r', ' ', '#', '/', ':', '<', '>', '?', '@', '[', '\\', ']', '^',
    '|'].contains c

/-- The host that a text denotes behind other schemes; none if the text is empty. -/
def parsePlain (s : List Char) : Except UrlError (Option Host) :=
  match s with
  | [] => .ok none
  | '[' :: rest => (parseBracketed rest).map some
  | _ =>
    if s.any isDelimiter then .error .invalidHostCharacter
    else .ok (some (.plain (Percent.encode Percent.control s)))

end Host

end EvalConsole
