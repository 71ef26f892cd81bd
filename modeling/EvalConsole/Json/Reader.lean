/-
Reading JSON text.

The grammar is that of the standard: one value, blanks around it and between its
tokens. Arrays and objects may be nested 127 deep. Every reader answers with what it
found and a shorter text, so reading ends; a refusal carries what was left of the text.

* `Json.read` reads the first value of a text.
* `Json.parse` reads a whole text; `Json.parse?` forgets the reason of a refusal.
-/
import EvalConsole.Json.Numeral

namespace EvalConsole

namespace Json

/-- The characters that may stand between tokens. -/
def isBlank (c : Char) : Bool :=
  c == ' ' || c == '\n' || c == '\t' || c == '\r'

/-- A text without the blanks at its start. -/
def skipBlanks (s : List Char) : List Char :=
  s.dropWhile isBlank

theorem length_skipBlanks_le (s : List Char) : (skipBlanks s).length ≤ s.length :=
  (List.dropWhile_sublist _).length_le

theorem length_lt_of_skipBlanks_eq_cons {s r : List Char} {c : Char}
    (h : skipBlanks s = c :: r) : r.length < s.length := by
  have := length_skipBlanks_le s
  rw [h, List.length_cons] at this
  omega

/-! ### Texts in quotes -/

/-- The value of a hexadecimal digit. -/
def hexValue? (c : Char) : Option Nat :=
  if '0' ≤ c ∧ c ≤ '9' then some (c.toNat - '0'.toNat)
  else if 'a' ≤ c ∧ c ≤ 'f' then some (c.toNat - 'a'.toNat + 10)
  else if 'A' ≤ c ∧ c ≤ 'F' then some (c.toNat - 'A'.toNat + 10)
  else none

/-- The number that four hexadecimal digits denote. -/
def hexValue4? (a b c d : Char) : Option Nat := do
  let a ← hexValue? a
  let b ← hexValue? b
  let c ← hexValue? c
  let d ← hexValue? d
  return ((a * 16 + b) * 16 + c) * 16 + d

/-- Four hexadecimal digits. With fewer than four bytes left the text is unfinished,
whatever they are. -/
def readHex4 (s : List Char) : Except Fault (Read Nat s) :=
  let refused : Fault :=
    if Utf8.byteCount s < 4 then ⟨.unfinishedString, [], 0⟩ else ⟨.invalidEscape, s, 4⟩
  match s with
  | a :: b :: c :: d :: r =>
    match hexValue4? a b c d with
    | some n => .ok ⟨n, r, by simp only [List.length_cons]; omega⟩
    | none => .error refused
  | _ => .error refused

/-- Whether a number is the first half of a surrogate pair. -/
def isHighSurrogate (n : Nat) : Bool :=
  0xD800 ≤ n && n < 0xDC00

/-- Whether a number is the second half of a surrogate pair. -/
def isLowSurrogate (n : Nat) : Bool :=
  0xDC00 ≤ n && n < 0xE000

/-- The character that a surrogate pair denotes. -/
def ofSurrogates (high low : Nat) : Char :=
  Char.ofNat (0x10000 + (high - 0xD800) * 0x400 + (low - 0xDC00))

/-- The character that hexadecimal digits denote; the first half of a surrogate pair
needs the second half behind it. -/
def readHexEscape (s : List Char) : Except Fault (Read Char s) :=
  match readHex4 s with
  | .error fault => .error fault
  | .ok ⟨n, r, h⟩ =>
    if isLowSurrogate n then .error ⟨.loneSurrogate, r, 0⟩
    else if isHighSurrogate n then
      match r, h with
      | [], _ => .error ⟨.unfinishedString, [], 0⟩
      | c :: r, h =>
        if c = '\\' then
          match r, h with
          | [], _ => .error ⟨.unfinishedString, [], 0⟩
          | d :: r, h =>
            if d = 'u' then
              match readHex4 r with
              | .error fault => .error fault
              | .ok ⟨low, r', h'⟩ =>
                if isLowSurrogate low then
                  .ok ⟨ofSurrogates n low, r', by simp only [List.length_cons] at h; omega⟩
                else .error ⟨.loneSurrogate, r', 0⟩
            else .error ⟨.brokenSurrogatePair, d :: r, 1⟩
        else .error ⟨.brokenSurrogatePair, c :: r, 1⟩
    else .ok ⟨Char.ofNat n, r, h⟩

/-- The character that a letter after a backslash stands for. -/
def shortEscape? (c : Char) : Option Char :=
  if c = '"' ∨ c = '\\' ∨ c = '/' then some c
  else if c = 'b' then some '\x08'
  else if c = 'f' then some '\x0c'
  else if c = 'n' then some '\n'
  else if c = 'r' then some '\r'
  else if c = 't' then some '\t'
  else none

/-- What follows a backslash. -/
def readEscape (s : List Char) : Except Fault (Read Char s) :=
  match s with
  | [] => .error ⟨.unfinishedString, [], 0⟩
  | c :: r =>
    if c = 'u' then
      match readHexEscape r with
      | .error fault => .error fault
      | .ok found => .ok (found.ofShorter (by simp only [List.length_cons]; omega))
    else
      match shortEscape? c with
      | some d => .ok ⟨d, r, Nat.lt_succ_self _⟩
      | none => .error ⟨.invalidEscape, c :: r, 1⟩

/-- A text up to its closing quote, behind the opening one. -/
def readQuoted (s : List Char) : Except Fault (Read (List Char) s) :=
  match s with
  | [] => .error ⟨.unfinishedString, [], 0⟩
  | c :: r =>
    if c = '"' then .ok ⟨[], r, Nat.lt_succ_self _⟩
    else if c = '\\' then
      match readEscape r with
      | .error fault => .error fault
      | .ok ⟨d, r', h⟩ =>
        match readQuoted r' with
        | .error fault => .error fault
        | .ok ⟨ds, rest, h'⟩ =>
          .ok ⟨d :: ds, rest, by simp only [List.length_cons]; omega⟩
    else if c.toNat < 0x20 then .error ⟨.controlCharacter, c :: r, 1⟩
    else
      match readQuoted r with
      | .error fault => .error fault
      | .ok ⟨ds, rest, h'⟩ => .ok ⟨c :: ds, rest, by simp only [List.length_cons]; omega⟩
termination_by s.length
decreasing_by all_goals simp only [List.length_cons]; omega

/-! ### Sequences in brackets -/

/-- What tells arrays and objects apart as sequences: the closing bracket and two
refusals. -/
structure Brackets where
  close : Char
  unfinished : Reason
  noSeparator : Reason

/-- The further members of a sequence, behind a member. -/
def readMore {α : Type} (brackets : Brackets)
    (member : (s : List Char) → Except Fault (Read α s)) (s : List Char) :
    Except Fault (Read (List α) s) :=
  match h : skipBlanks s with
  | [] => .error ⟨brackets.unfinished, [], 1⟩
  | c :: r =>
    if c = ',' then
      match h' : skipBlanks r with
      | [] => .error ⟨.unfinishedValue, [], 1⟩
      | c' :: r' =>
        if c' = brackets.close then .error ⟨.trailingComma, c' :: r', 1⟩
        else
          match member (c' :: r') with
          | .error fault => .error fault
          | .ok ⟨value, rest, h₁⟩ =>
            have hlt : rest.length < s.length := by
              have := length_lt_of_skipBlanks_eq_cons h
              have := length_lt_of_skipBlanks_eq_cons h'
              simp only [List.length_cons] at h₁
              omega
            match readMore brackets member rest with
            | .error fault => .error fault
            | .ok ⟨values, rest', h₂⟩ => .ok ⟨value :: values, rest', Nat.lt_trans h₂ hlt⟩
    else if c = brackets.close then
      .ok ⟨[], r, length_lt_of_skipBlanks_eq_cons h⟩
    else .error ⟨brackets.noSeparator, c :: r, 1⟩
termination_by s.length

/-- The members of a sequence, behind its opening bracket. -/
def readSequence {α : Type} (brackets : Brackets)
    (member : (s : List Char) → Except Fault (Read α s)) (s : List Char) :
    Except Fault (Read (List α) s) :=
  match h : skipBlanks s with
  | [] => .error ⟨brackets.unfinished, [], 1⟩
  | c :: r =>
    if c = brackets.close then .ok ⟨[], r, length_lt_of_skipBlanks_eq_cons h⟩
    else
      match member (c :: r) with
      | .error fault => .error fault
      | .ok ⟨value, rest, h₁⟩ =>
        match readMore brackets member rest with
        | .error fault => .error fault
        | .ok ⟨values, rest', h₂⟩ =>
          .ok ⟨value :: values, rest', by
            have := length_lt_of_skipBlanks_eq_cons h
            simp only [List.length_cons] at h₁
            omega⟩

/-- The brackets of arrays. -/
def Brackets.array : Brackets :=
  ⟨']', .unfinishedArray, .noArraySeparator⟩

/-- The brackets of objects. -/
def Brackets.object : Brackets :=
  ⟨'\x7d', .unfinishedObject, .noObjectSeparator⟩

/-- A member of an object: a name in quotes, a colon, a value. -/
def readMember (value : (s : List Char) → Except Fault (Read Json s)) (s : List Char) :
    Except Fault (Read (String × Json) s) :=
  match s with
  | [] => .error ⟨.unfinishedObject, [], 1⟩
  | c :: r =>
    if c = '"' then
      match readQuoted r with
      | .error fault => .error fault
      | .ok ⟨name, rest, h₁⟩ =>
        match h : skipBlanks rest with
        | [] => .error ⟨.unfinishedObject, [], 1⟩
        | d :: rest' =>
          if d = ':' then
            match value rest' with
            | .error fault => .error fault
            | .ok ⟨v, rest'', h₂⟩ =>
              .ok ⟨(String.ofList name, v), rest'', by
                have := length_lt_of_skipBlanks_eq_cons h
                simp only [List.length_cons]
                omega⟩
          else .error ⟨.noColon, d :: rest', 1⟩
    else .error ⟨.nameNotString, c :: r, 1⟩

/-! ### Values -/

/-- The rest of a literal behind its first letter. -/
def readLiteral (letters : List Char) (v : Json) (s : List Char) :
    Except Fault (Json × { r : List Char // r.length ≤ s.length }) :=
  match letters, s with
  | [], s => .ok (v, ⟨s, Nat.le_refl _⟩)
  | _ :: _, [] => .error ⟨.unfinishedValue, [], 0⟩
  | l :: letters, c :: r =>
    if c = l then
      match readLiteral letters v r with
      | .error fault => .error fault
      | .ok (v, ⟨rest, h⟩) => .ok (v, ⟨rest, Nat.le_succ_of_le h⟩)
    else .error ⟨.brokenLiteral, c :: r, 1⟩

/-- A number behind its sign. -/
def readNumber (negative : Bool) (s : List Char) : Except Fault (Read Json s) :=
  match Numeral.read negative s with
  | .error fault => .error fault
  | .ok ⟨numeral, rest, h⟩ =>
    match numeral.value with
    | .ok v => .ok ⟨v, rest, h⟩
    | .error unread => .error ⟨.numberTooLarge, unread ++ rest, 0⟩

/-- How deep arrays and objects may be nested. -/
def maxDepth : Nat :=
  127

/-- The first value of a text, with arrays and objects at most `depth` deep. -/
def readValue (depth : Nat) (s : List Char) : Except Fault (Read Json s) :=
  match h : skipBlanks s with
  | [] => .error ⟨.unfinishedValue, [], 1⟩
  | c :: r =>
    have hlt : r.length < s.length := length_lt_of_skipBlanks_eq_cons h
    let literal (letters : List Char) (v : Json) : Except Fault (Read Json s) :=
      match readLiteral letters v r with
      | .error fault => .error fault
      | .ok (v, ⟨rest, h⟩) => .ok ⟨v, rest, Nat.lt_of_le_of_lt h hlt⟩
    if c = 'n' then literal ['u', 'l', 'l'] .null
    else if c = 't' then literal ['r', 'u', 'e'] (.bool true)
    else if c = 'f' then literal ['a', 'l', 's', 'e'] (.bool false)
    else if c = '-' then
      match readNumber true r with
      | .error fault => .error fault
      | .ok found => .ok (found.ofShorter (Nat.le_of_lt hlt))
    else if c.isDigit then
      match readNumber false (c :: r) with
      | .error fault => .error fault
      | .ok found => .ok (found.ofShorter (h ▸ length_skipBlanks_le s))
    else if c = '"' then
      match readQuoted r with
      | .error fault => .error fault
      | .ok found =>
        .ok ((found.map fun cs => .string (String.ofList cs)).ofShorter (Nat.le_of_lt hlt))
    else if c = '[' then
      match depth with
      | 0 => .error ⟨.tooDeep, c :: r, 1⟩
      | depth + 1 =>
        match readSequence .array (readValue depth) r with
        | .error fault => .error fault
        | .ok found => .ok ((found.map .array).ofShorter (Nat.le_of_lt hlt))
    else if c = '\x7b' then
      match depth with
      | 0 => .error ⟨.tooDeep, c :: r, 1⟩
      | depth + 1 =>
        match readSequence .object (readMember (readValue depth)) r with
        | .error fault => .error fault
        | .ok found =>
          .ok ((found.map fun written => .object (Members.ofWritten written)).ofShorter
            (Nat.le_of_lt hlt))
    else .error ⟨.noValue, c :: r, 1⟩

/-- The value that a whole text denotes. -/
def read (s : List Char) : Except Fault Json :=
  match readValue maxDepth s with
  | .error fault => .error fault
  | .ok ⟨v, rest, _⟩ =>
    match skipBlanks rest with
    | [] => .ok v
    | c :: r => .error ⟨.trailingText, c :: r, 1⟩

/-- The value that a text denotes, or the words for its first fault. -/
def parse (text : String) : Except String Json :=
  (read text.toList).mapError (Fault.message text.toList)

end Json

end EvalConsole
