/-
Percent signs in addresses.

A character that a part of an address cannot hold is written as its bytes, each as a percent
sign and two hexadecimal digits.

* `Percent.encode` writes a text for a part of an address, given the characters that the
  part cannot hold; `Percent.decode` reads the bytes of a text.
-/
import EvalConsole.Text.Utf8

namespace EvalConsole.Percent

/-- The upper-case hexadecimal digit of a number below 16. -/
def hexDigit (n : Nat) : Char :=
  if n < 10 then Char.ofNat ('0'.toNat + n) else Char.ofNat ('A'.toNat + (n - 10))

/-- A byte as a percent sign and two digits. -/
def encodeByte (b : UInt8) : List Char :=
  ['%', hexDigit (b.toNat / 16), hexDigit (b.toNat % 16)]

/-- A text with the characters in `unfit` written as bytes. -/
def encode (unfit : Char → Bool) (s : List Char) : List Char :=
  s.flatMap fun c =>
    if unfit c then (String.utf8EncodeChar c).flatMap encodeByte else [c]

/-- The value of a hexadecimal digit, given as a byte. -/
def hexValue? (b : UInt8) : Option UInt8 :=
  if 0x30 ≤ b ∧ b ≤ 0x39 then some (b - 0x30)
  else if 0x41 ≤ b ∧ b ≤ 0x46 then some (b - 0x41 + 10)
  else if 0x61 ≤ b ∧ b ≤ 0x66 then some (b - 0x61 + 10)
  else none

/-- Bytes with every percent sign before two hexadecimal digits undone. -/
def decodeBytes : List UInt8 → List UInt8
  | [] => []
  | [a] => [a]
  | [a, b] => [a, b]
  | a :: b :: c :: rest =>
    if a = 0x25 then
      match hexValue? b, hexValue? c with
      | some high, some low => (high * 16 + low) :: decodeBytes rest
      | _, _ => a :: decodeBytes (b :: c :: rest)
    else a :: decodeBytes (b :: c :: rest)

/-- The bytes that a text stands for. -/
def decode (s : List Char) : List UInt8 :=
  decodeBytes (Utf8.encode s)

/-! ### What the parts of an address cannot hold -/

/-- What no part holds: controls, and everything beyond ASCII. -/
def control (c : Char) : Bool :=
  c.toNat < 0x20 || 0x7E < c.toNat

/-- What a fragment does not hold. -/
def fragment (c : Char) : Bool :=
  control c || [' ', '"', '<', '>', '\x60'].contains c

/-- What a query does not hold; behind `http` and the like also no apostrophe. -/
def query (special : Bool) (c : Char) : Bool :=
  control c || [' ', '"', '#', '<', '>'].contains c || (special && c == '\x27')

/-- What a segment of a path does not hold. -/
def path (c : Char) : Bool :=
  fragment c || ['#', '?', '\x7b', '\x7d'].contains c

/-- What a user name or a password does not hold. -/
def userinfo (c : Char) : Bool :=
  path c || ['/', ':', ';', '=', '@', '[', '\\', ']', '^', '|'].contains c

end EvalConsole.Percent
