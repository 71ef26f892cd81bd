/-
Addresses of eight pieces.

Pieces are hexadecimal numbers of up to four digits between colons. Two colons next to each
other stand for the pieces that are missing, once in an address; the last two pieces may be
written as four decimal bytes between dots.

* `Ipv6.parse?` reads an address.
* `Ipv6.text` writes it with two colons for its first longest run of two or more zeros.
-/
import EvalConsole.Url.Ipv4

namespace EvalConsole

/-- An address of eight pieces. -/
structure Ipv6 where
  pieces : List UInt16
  length_eq : pieces.length = 8
  deriving DecidableEq

namespace Ipv6

open Text

/-! ### Reading -/

/-- What is written between colons: a piece, or nothing where pieces are missing. -/
inductive Part where
  | piece (n : Nat)
  | gap
  deriving DecidableEq, Repr

/-- A byte in decimal without a zero in front. -/
def byte? (s : List Char) : Option Nat :=
  match s with
  | [] => none
  | c :: rest =>
    if c = '0' ∧ !rest.isEmpty then none
    else (Ipv4.digits? 10 s).filter (· < 256)

/-- The two pieces that four decimal bytes make. -/
def embedded? (s : List Char) : Option (List Part) :=
  match splitOn (· == '.') s with
  | [a, b, c, d] => do
    let a ← byte? a
    let b ← byte? b
    let c ← byte? c
    let d ← byte? d
    return [.piece (a * 256 + b), .piece (c * 256 + d)]
  | _ => none

/-- The hexadecimal digits that a text starts with, at most four. -/
def leadingDigits (s : List Char) : List Char :=
  (s.take 4).takeWhile fun c => (Ipv4.digit? 16 c).isSome

/-- The parts of a text behind a colon, or of a whole text; at most `room` of them. `gap`
says whether pieces may be left out. -/
def parts? : (room : Nat) → (gap : Bool) → List Char → Option (List Part)
  | _, _, [] => some []
  | 0, _, _ :: _ => none
  | room + 1, gap, c :: rest =>
    if c = ':' then
      if gap then (parts? room false rest).map (.gap :: ·) else none
    else
      let digits := leadingDigits (c :: rest)
      let piece := Part.piece ((Ipv4.digits? 16 digits).getD 0)
      match (c :: rest).drop digits.length with
      | [] => some [piece]
      | ':' :: rest =>
        if rest.isEmpty then none else (parts? room gap rest).map (piece :: ·)
      | '.' :: _ => if digits.isEmpty ∨ room = 0 then none else embedded? (c :: rest)
      | _ => none

/-- The parts of an address; at its start pieces are left out by two colons. -/
def allParts? (s : List Char) : Option (List Part) :=
  match s with
  | [] => none
  | ':' :: ':' :: rest => (parts? 7 false rest).map (.gap :: ·)
  | ':' :: _ => none
  | _ => parts? 8 true s

/-- The numbers of parts, with a run of zeros in place of the gap. -/
def fill (parts : List Part) : List Nat :=
  let missing := 8 - (parts.filter (· != .gap)).length
  parts.flatMap fun
    | .piece n => [n]
    | .gap => List.replicate missing 0

/-- The address of eight numbers. -/
def ofNumbers? (numbers : List Nat) : Option Ipv6 :=
  let pieces := numbers.map UInt16.ofNat
  if h : pieces.length = 8 then some ⟨pieces, h⟩ else none

/-- The address that a text denotes. -/
def parse? (s : List Char) : Option Ipv6 :=
  (allParts? s).bind fun parts => ofNumbers? (fill parts)

/-! ### Writing -/

/-- How many zeros a list starts with. -/
def zeroRun (pieces : List UInt16) : Nat :=
  (pieces.takeWhile (· == 0)).length

/-- The length of the longest run of zeros. -/
def longestRun : List UInt16 → Nat
  | [] => 0
  | piece :: rest => max (zeroRun (piece :: rest)) (longestRun rest)

/-- Where the first run of zeros of a length starts. -/
def runStart (length : Nat) : List UInt16 → Nat
  | [] => 0
  | piece :: rest =>
    if zeroRun (piece :: rest) = length then 0 else runStart length rest + 1

/-- Pieces in hexadecimal between colons. -/
def piecesText (pieces : List UInt16) : List Char :=
  join ':' (pieces.map fun piece => Nat.toDigits 16 piece.toNat)

/-- The shortest text of an address. -/
def text (address : Ipv6) : List Char :=
  let longest := longestRun address.pieces
  if longest < 2 then piecesText address.pieces
  else
    let start := runStart longest address.pieces
    piecesText (address.pieces.take start) ++ ':' :: ':'
      :: piecesText (address.pieces.drop (start + longest))

end Ipv6

end EvalConsole
