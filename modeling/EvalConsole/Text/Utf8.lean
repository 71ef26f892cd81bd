/-
Text as bytes.

Bytes are cut into characters and into pieces that no character can be: such a piece
is the longest start of a character that the next byte rules out, or a single byte.

* `Utf8.encode` writes a text, `Utf8.decode` reads one and tells where reading fails.
* `Utf8.decodeLossy` puts a replacement character for each piece that is none.
-/

namespace EvalConsole.Utf8

/-- How many bytes a text takes. -/
def byteCount : List Char → Nat
  | [] => 0
  | c :: rest => c.utf8Size + byteCount rest

/-- The bytes of a text. -/
def encode (s : List Char) : List UInt8 :=
  s.flatMap String.utf8EncodeChar

/-- The ranges of the bytes that follow a first byte; none for a byte that starts no
character. -/
def tails? (first : UInt8) : Option (List (UInt8 × UInt8)) :=
  let any : UInt8 × UInt8 := (0x80, 0xBF)
  if first ≤ 0x7F then some []
  else if first < 0xC2 then none
  else if first ≤ 0xDF then some [any]
  else if first = 0xE0 then some [(0xA0, 0xBF), any]
  else if first = 0xED then some [(0x80, 0x9F), any]
  else if first ≤ 0xEF then some [any, any]
  else if first = 0xF0 then some [(0x90, 0xBF), any, any]
  else if first ≤ 0xF3 then some [any, any, any]
  else if first = 0xF4 then some [(0x80, 0x8F), any, any]
  else none

/-- How the bytes after a first byte went on. -/
inductive Tail where
  /-- All of them were there. -/
  | complete
  /-- One of them was another byte. -/
  | broken
  /-- The text ended. -/
  | ended
  deriving DecidableEq, Repr

/-- Takes the bytes that fit the ranges, up to the first that does not. -/
def takeTail : List (UInt8 × UInt8) → List UInt8 → List UInt8 × Tail × List UInt8
  | [], bytes => ([], .complete, bytes)
  | _ :: _, [] => ([], .ended, [])
  | (low, high) :: ranges, b :: bytes =>
    if low ≤ b ∧ b ≤ high then
      let (taken, tail, rest) := takeTail ranges bytes
      (b :: taken, tail, rest)
    else ([], .broken, b :: bytes)

theorem length_takeTail_le (ranges : List (UInt8 × UInt8)) (bytes : List UInt8) :
    (takeTail ranges bytes).2.2.length ≤ bytes.length := by
  induction ranges generalizing bytes with
  | nil => simp [takeTail]
  | cons range ranges ih =>
    cases bytes with
    | nil => simp [takeTail]
    | cons b bytes =>
      rw [takeTail]
      split
      · exact Nat.le_succ_of_le (ih bytes)
      · simp

/-- The character of a first byte and the bytes after it. -/
def combine (first : UInt8) (tail : List UInt8) : Char :=
  let lead :=
    match tail.length with
    | 0 => first.toNat
    | 1 => first.toNat % 0x20
    | 2 => first.toNat % 0x10
    | _ => first.toNat % 0x08
  Char.ofNat (tail.foldl (fun n b => n * 0x40 + b.toNat % 0x40) lead)

/-- A piece of a byte sequence: a character, bytes that are none, or the start of one at
the end of the sequence. -/
inductive Piece where
  | char (c : Char)
  | invalid (length : Nat)
  | unfinished (length : Nat)
  deriving DecidableEq, Repr

/-- The pieces of a byte sequence. -/
def pieces : List UInt8 → List Piece
  | [] => []
  | first :: bytes =>
    match tails? first with
    | none => .invalid 1 :: pieces bytes
    | some ranges =>
      let found := takeTail ranges bytes
      let piece :=
        match found.2.1 with
        | .complete => .char (combine first found.1)
        | .broken => .invalid (found.1.length + 1)
        | .ended => .unfinished (found.1.length + 1)
      piece :: pieces found.2.2
termination_by bytes => bytes.length
decreasing_by
  · simp
  · exact Nat.lt_succ_of_le (length_takeTail_le _ _)

/-- Why bytes are no text: the index of the first piece that is no character, and its
length unless it is unfinished. -/
structure DecodeError where
  index : Nat
  length : Option Nat
  deriving DecidableEq, Repr

/-- The words for a failure. -/
def DecodeError.message (e : DecodeError) : String :=
  match e.length with
  | some n => s!"invalid utf-8 sequence of {n} bytes from index {e.index}"
  | none => s!"incomplete utf-8 byte sequence from index {e.index}"

/-- The characters of pieces; `index` is the index of the first piece. -/
def collect (index : Nat) : List Piece → Except DecodeError (List Char)
  | [] => .ok []
  | .char c :: rest => (collect (index + c.utf8Size) rest).map (c :: ·)
  | .invalid length :: _ => .error ⟨index, some length⟩
  | .unfinished _ :: _ => .error ⟨index, none⟩

/-- The text of a byte sequence. -/
def decode (bytes : List UInt8) : Except DecodeError String :=
  (collect 0 (pieces bytes)).map String.ofList

/-- The text of a byte sequence, with U+FFFD for every piece that is no character. -/
def decodeLossy (bytes : List UInt8) : String :=
  String.ofList ((pieces bytes).map fun
    | .char c => c
    | .invalid _ => '\uFFFD'
    | .unfinished _ => '\uFFFD')

end EvalConsole.Utf8
