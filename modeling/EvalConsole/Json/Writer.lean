/-
Compact JSON text.

No space is written between tokens. In a text only the quote, the backslash and the
control characters are escaped: those with a letter of their own by that letter, the
others by four lower-case hexadecimal digits. Floats have at least one digit on either
side of the point, or an exponent with its sign.

* `Json.write` is the text of a value, `Json.quoted` that of a text.
-/
import EvalConsole.Json.Basic
import EvalConsole.Number.Shortest

namespace EvalConsole

namespace Json

/-- One character inside quotes. -/
def escaped (c : Char) : List Char :=
  if c = '"' then ['\\', '"']
  else if c = '\\' then ['\\', '\\']
  else if c = '\x08' then ['\\', 'b']
  else if c = '\x0c' then ['\\', 'f']
  else if c = '\n' then ['\\', 'n']
  else if c = '\r' then ['\\', 'r']
  else if c = '\t' then ['\\', 't']
  else if c.toNat < 0x20 then
    ['\\', 'u', '0', '0', Nat.digitChar (c.toNat / 16), Nat.digitChar (c.toNat % 16)]
  else [c]

/-- A text in quotes. -/
def quoted (s : String) : List Char :=
  '"' :: (s.toList.flatMap escaped ++ ['"'])

/-- Floats from `0.00001` up to sixteen digits before the point are positional. -/
def floatLayout : Decimal.Layout :=
  ⟨-5, 15⟩

/-- The decimal digits of an integer. -/
def intText (n : Int) : List Char :=
  (if n < 0 then ['-'] else []) ++ Nat.toDigits 10 n.natAbs

mutual

/-- The compact text of a value, as a list of characters. -/
def chars : Json → List Char
  | null => ['n', 'u', 'l', 'l']
  | bool true => ['t', 'r', 'u', 'e']
  | bool false => ['f', 'a', 'l', 's', 'e']
  | int value => intText value
  | float value => value.text floatLayout
  | string value => quoted value
  | array items => '[' :: itemsChars items ++ [']']
  | object members => '\x7b' :: membersChars members ++ ['\x7d']

/-- The items of an array, separated by commas. -/
def itemsChars : List Json → List Char
  | [] => []
  | [item] => chars item
  | item :: next :: rest => chars item ++ ',' :: itemsChars (next :: rest)

/-- The members of an object, separated by commas. -/
def membersChars : List (String × Json) → List Char
  | [] => []
  | [(name, value)] => quoted name ++ ':' :: chars value
  | (name, value) :: next :: rest =>
    quoted name ++ ':' :: chars value ++ ',' :: membersChars (next :: rest)

end

/-- The compact text of a value. -/
def write (v : Json) : String :=
  String.ofList v.chars

end Json

end EvalConsole
