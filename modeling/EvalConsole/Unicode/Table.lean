/-
Tables of character properties.

A table is written as entries between blanks, with hexadecimal numbers. A range is
`a-b` or a single `a`; with a label it is `a-b:label`. A replacement is `a:b.c.d`; a run of
`n` replacements by successive characters is `a+n:b`, and a run over every other character
is `a*n:b`. An exclamation mark before the colon marks a replacement that holds one way
only.

* `Span.anyHolds`, `Labelled.find?` and `Replacement.find?` look a character up.
-/
import EvalConsole.Text.Split

namespace EvalConsole.Unicode

open Text

/-- The value of a lower-case hexadecimal digit. -/
def hexDigit (c : Char) : Nat :=
  if c.isDigit then c.toNat - '0'.toNat else c.toNat - 'a'.toNat + 10

/-- The number that lower-case hexadecimal digits denote. -/
def hexNumber (cs : List Char) : Nat :=
  cs.foldl (fun n c => n * 16 + hexDigit c) 0

/-- The entries of a table. -/
def entries (table : String) : List (List Char) :=
  (table.splitOn "\n").flatMap fun row =>
    (splitOn (· == ' ') row.toList).filter fun entry => !entry.isEmpty

/-- A text before and after the first occurrence of a character; all before if there is
none. -/
def cut (c : Char) (cs : List Char) : List Char × List Char :=
  (cs.takeWhile (· != c), (cs.dropWhile (· != c)).drop 1)

/-- The characters from a first to a last one. -/
structure Span where
  first : Nat
  last : Nat
  deriving DecidableEq, Repr

namespace Span

/-- Reads `a-b` or `a`. -/
def read (entry : List Char) : Span :=
  match cut '-' entry with
  | (first, []) => ⟨hexNumber first, hexNumber first⟩
  | (first, last) => ⟨hexNumber first, hexNumber last⟩

/-- Reads a table of ranges. -/
def readAll (table : String) : List Span :=
  (entries table).map read

/-- Whether a character is in a range. -/
def holds (s : Span) (c : Char) : Bool :=
  s.first ≤ c.toNat && c.toNat ≤ s.last

/-- Whether a character is in one of several ranges. -/
def anyHolds (spans : List Span) (c : Char) : Bool :=
  spans.any fun s => s.holds c

end Span

/-- A range with a label. -/
structure Labelled (α : Type) where
  span : Span
  label : α
  deriving DecidableEq, Repr

namespace Labelled

/-- Reads a table of ranges with labels. -/
def readAll {α : Type} (label : List Char → α) (table : String) : List (Labelled α) :=
  (entries table).map fun entry =>
    let (span, text) := cut ':' entry
    ⟨Span.read span, label text⟩

/-- The label of a character. -/
def find? {α : Type} (table : List (Labelled α)) (c : Char) : Option α :=
  (table.find? fun r => r.span.holds c).map Labelled.label

end Labelled

/-- The replacements of `count` characters, `step` apart: the first one by `image`, each
later one by a character as much later. -/
structure Replacement where
  first : Nat
  count : Nat
  step : Nat
  image : List Nat
  /-- Whether the replacement is not undone. -/
  oneWay : Bool
  deriving DecidableEq, Repr

namespace Replacement

/-- Reads one entry of a table of replacements. -/
def read (entry : List Char) : Replacement :=
  let (source, text) := cut ':' entry
  let image := (splitOn (· == '.') text).map hexNumber
  let oneWay := source.getLast? == some '!'
  let source := if oneWay then source.dropLast else source
  match cut '+' source, cut '*' source with
  | (first, []), (_, []) => ⟨hexNumber first, 1, 1, image, oneWay⟩
  | (_, []), (first, count) => ⟨hexNumber first, hexNumber count, 2, image, oneWay⟩
  | (first, count), _ => ⟨hexNumber first, hexNumber count, 1, image, oneWay⟩

/-- Reads a table of replacements. -/
def readAll (table : String) : List Replacement :=
  (entries table).map read

/-- What an entry replaces a character by, if it is one of its characters. -/
def imageOf? (r : Replacement) (c : Char) : Option (List Char) :=
  let offset := c.toNat - r.first
  if r.first ≤ c.toNat ∧ offset < r.count * r.step ∧ offset % r.step = 0 then
    match r.image with
    | [] => some []
    | head :: rest => some (Char.ofNat (head + offset) :: rest.map Char.ofNat)
  else none

/-- What a table replaces a character by, if it is in the table. -/
def find? (table : List Replacement) (c : Char) : Option (List Char) :=
  table.findSome? fun r => r.imageOf? c

end Replacement

end EvalConsole.Unicode
