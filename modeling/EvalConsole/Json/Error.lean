/-
Why a text is not JSON, and where.

* `Json.Fault` is the reason together with what was left of the text.
* `Json.Fault.message` tells line and column: lines are counted from one, a column is
  the number of bytes since the last line feed.
-/
import EvalConsole.Json.Basic
import EvalConsole.Text.Utf8

namespace EvalConsole

namespace Json

/-- The reasons for which a text is refused. -/
inductive Reason where
  | unfinishedValue
  | unfinishedArray
  | unfinishedObject
  | unfinishedString
  | noValue
  | brokenLiteral
  | noColon
  | noArraySeparator
  | noObjectSeparator
  | nameNotString
  | trailingComma
  | trailingText
  | invalidNumber
  | numberTooLarge
  | controlCharacter
  | invalidEscape
  | loneSurrogate
  | brokenSurrogatePair
  | tooDeep
  deriving DecidableEq, Repr

/-- The words for a reason. -/
def Reason.text : Reason → String
  | unfinishedValue => "EOF while parsing a value"
  | unfinishedArray => "EOF while parsing a list"
  | unfinishedObject => "EOF while parsing an object"
  | unfinishedString => "EOF while parsing a string"
  | noValue => "expected value"
  | brokenLiteral => "expected ident"
  | noColon => "expected `:`"
  | noArraySeparator => "expected `,` or `]`"
  | noObjectSeparator => "expected `,` or `\x7d`"
  | nameNotString => "key must be a string"
  | trailingComma => "trailing comma"
  | trailingText => "trailing characters"
  | invalidNumber => "invalid number"
  | numberTooLarge => "number out of range"
  | controlCharacter => "control character (\\u0000-\\u001F) found while parsing a string"
  | invalidEscape => "invalid escape"
  | loneSurrogate => "lone leading surrogate in hex escape"
  | brokenSurrogatePair => "unexpected end of hex escape"
  | tooDeep => "recursion limit exceeded"

/-- A refusal: the reason, what was left of the text, and how many bytes of that had
been looked at. -/
structure Fault where
  reason : Reason
  rest : List Char
  looked : Nat
  deriving DecidableEq, Repr

/-- Line and column after the first `bytes` bytes of a text, starting from a given
position. A character that is cut counts with the bytes before the cut. -/
def positionFrom (line column : Nat) : (bytes : Nat) → List Char → Nat × Nat
  | _, [] => (line, column)
  | bytes, c :: rest =>
    if bytes < c.utf8Size then (line, column + bytes)
    else if c = '\n' then positionFrom (line + 1) 0 (bytes - c.utf8Size) rest
    else positionFrom line (column + c.utf8Size) (bytes - c.utf8Size) rest

/-- Line and column of a fault in a text. -/
def Fault.position (text : List Char) (fault : Fault) : Nat × Nat :=
  positionFrom 1 0 (Utf8.byteCount text - Utf8.byteCount fault.rest + fault.looked) text

/-- The words for a fault in a text. -/
def Fault.message (text : List Char) (fault : Fault) : String :=
  let (line, column) := fault.position text
  s!"{fault.reason.text} at line {line} column {column}"

end Json

end EvalConsole
