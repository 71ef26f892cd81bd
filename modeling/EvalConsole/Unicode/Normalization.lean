/-
The composed normal form of a text.

A text is decomposed, the marks behind each letter are put into the order of their classes,
and letters and marks are composed again where no mark of the same or a higher class
stands between them.

* `nfc` is the composed normal form.

Design notes
------------
Characters below U+0300 are letters or controls that compose with nothing below U+0300, so a
text of them alone is its own normal form; no table is looked at for it.
-/
import EvalConsole.Unicode.Decomposition

namespace EvalConsole.Unicode

/-! ### Syllables of Hangul -/

/-- The decomposition of a precomposed syllable. -/
def hangulDecomposition? (c : Char) : Option (List Char) :=
  let index := c.toNat - 0xAC00
  if 0xAC00 ≤ c.toNat ∧ index < 11172 then
    let leading := Char.ofNat (0x1100 + index / 588)
    let vowel := Char.ofNat (0x1161 + index % 588 / 28)
    if index % 28 = 0 then some [leading, vowel]
    else some [leading, vowel, Char.ofNat (0x11A7 + index % 28)]
  else none

/-- The syllable that a consonant and a vowel make, or a syllable and a final consonant. -/
def hangulComposite? (a b : Char) : Option Char :=
  let leading := a.toNat - 0x1100
  let vowel := b.toNat - 0x1161
  let syllable := a.toNat - 0xAC00
  let trailing := b.toNat - 0x11A7
  if 0x1100 ≤ a.toNat ∧ leading < 19 ∧ 0x1161 ≤ b.toNat ∧ vowel < 21 then
    some (Char.ofNat (0xAC00 + (leading * 21 + vowel) * 28))
  else if 0xAC00 ≤ a.toNat ∧ syllable < 11172 ∧ syllable % 28 = 0
      ∧ 0x11A7 < b.toNat ∧ trailing < 28 then
    some (Char.ofNat (a.toNat + trailing))
  else none

/-! ### Decomposing, ordering, composing -/

/-- The full decomposition of a character. -/
def decomposed (c : Char) : List Char :=
  match hangulDecomposition? c with
  | some cs => cs
  | none => (decomposition? c).getD [c]

/-- Puts a character in front of ordered ones: a mark goes behind the marks of lower
classes. -/
def placeMark (c : Char) : List Char → List Char
  | [] => [c]
  | d :: rest =>
    if combiningClass d ≠ 0 ∧ combiningClass d < combiningClass c then d :: placeMark c rest
    else c :: d :: rest

/-- Orders the marks behind each letter by their classes. -/
def orderMarks : List Char → List Char
  | [] => []
  | c :: rest => placeMark c (orderMarks rest)

/-- The character that two characters compose to. -/
def compose? (a b : Char) : Option Char :=
  match hangulComposite? a b with
  | some c => some c
  | none => composite? ((decomposition? a).getD [a] ++ [b])

/-- Composes a letter with what follows it; `passed` are the marks that did not compose, the
last of them of class `blocking`. -/
def composeFrom (letter : Char) (passed : List Char) (blocking : Nat) :
    List Char → List Char
  | [] => letter :: passed
  | c :: rest =>
    let composed? :=
      if passed.isEmpty ∨ blocking < combiningClass c then compose? letter c else none
    match composed? with
    | some d => composeFrom d passed blocking rest
    | none =>
      if combiningClass c = 0 then letter :: passed ++ composeFrom c [] 0 rest
      else composeFrom letter (passed ++ [c]) (combiningClass c) rest

/-- Composes every letter with the marks behind it. -/
def composeAll : List Char → List Char
  | [] => []
  | c :: rest =>
    if combiningClass c = 0 then composeFrom c [] 0 rest else c :: composeAll rest

/-- The composed normal form of a text. -/
def nfc (s : List Char) : List Char :=
  if s.all fun c => c.toNat < 0x300 then s
  else composeAll (orderMarks (s.flatMap decomposed))

end EvalConsole.Unicode
