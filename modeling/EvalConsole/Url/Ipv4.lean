/-
Addresses of four bytes.

An address has one to four numbers between dots; the last number fills the bytes that
are left. A number is decimal, octal behind a zero, or hexadecimal behind `0x`. One dot
may stand at the end.

* `Ipv4.endsInNumber` says which host names have to be such addresses.
* `Ipv4.parse?` reads an address, `Ipv4.text` writes it as four decimal bytes.
-/
import EvalConsole.Text.Split

namespace EvalConsole.Ipv4

open Text

/-- The value of a digit in a radix up to 16. -/
def digit? (radix : Nat) (c : Char) : Option Nat :=
  let value :=
    if '0' ≤ c ∧ c ≤ '9' then c.toNat - '0'.toNat
    else if 'a' ≤ c ∧ c ≤ 'f' then c.toNat - 'a'.toNat + 10
    else if 'A' ≤ c ∧ c ≤ 'F' then c.toNat - 'A'.toNat + 10
    else radix
  if value < radix then some value else none

/-- The number of some digits in a radix; no digits make zero. -/
def digits? (radix : Nat) (s : List Char) : Option Nat :=
  s.foldlM (fun n c => (digit? radix c).map (n * radix + ·)) 0

/-- The number of a part of an address. -/
def number? (s : List Char) : Option Nat :=
  match s with
  | [] => none
  | '0' :: 'x' :: rest => digits? 16 rest
  | '0' :: 'X' :: rest => digits? 16 rest
  | '0' :: c :: rest => digits? 8 (c :: rest)
  | _ => digits? 10 s

/-- The parts of a name, without an empty one at the end. -/
def parts (s : List Char) : List (List Char) :=
  let all := splitOn (· == '.') s
  if all.getLast? == some [] then all.dropLast else all

/-- Whether the last part of a name is a number, or only digits. -/
def endsInNumber (s : List Char) : Bool :=
  match (parts s).getLast? with
  | none => false
  | some last => (!last.isEmpty && last.all Char.isDigit) || (number? last).isSome

/-- The address of numbers: each but the last is a byte, the last fills the rest. -/
def ofNumbers? (numbers : List Nat) : Option UInt32 :=
  match numbers.reverse with
  | [] => none
  | last :: front =>
    if 4 < numbers.length then none
    else if front.any (255 < ·) then none
    else if Nat.pow 256 (4 - front.length) ≤ last then none
    else
      let high := front.reverse.foldl (fun n byte => n * 256 + byte) 0
      some (UInt32.ofNat (high * Nat.pow 256 (4 - front.length) + last))

/-- The address that a name denotes. -/
def parse? (s : List Char) : Option UInt32 :=
  ((parts s).mapM number?).bind ofNumbers?

/-- The four bytes of an address in decimal. -/
def text (address : UInt32) : List Char :=
  let byte (shift : Nat) := Nat.toDigits 10 (address.toNat / Nat.pow 256 shift % 256)
  join '.' [byte 3, byte 2, byte 1, byte 0]

end EvalConsole.Ipv4
