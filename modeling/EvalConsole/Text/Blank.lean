/-
White space.

* `Text.isBlank` holds of the characters with the property White_Space; a zero-width space
  and a byte order mark are not among them.
* `Text.trim` drops blanks at both ends, `Text.cutWord` splits behind the first word.
-/

namespace EvalConsole.Text

/-- Whether a character is white space. -/
def isBlank (c : Char) : Bool :=
  let n := c.toNat
  (0x09 ≤ n && n ≤ 0x0D) || n == 0x20 || n == 0x85 || n == 0xA0 || n == 0x1680
    || (0x2000 ≤ n && n ≤ 0x200A) || n == 0x2028 || n == 0x2029 || n == 0x202F
    || n == 0x205F || n == 0x3000

/-- A text without the characters at its end that satisfy a predicate. -/
def dropEndWhile (p : Char → Bool) (s : List Char) : List Char :=
  (s.reverse.dropWhile p).reverse

/-- A text without the blanks at its ends. -/
def trimChars (s : List Char) : List Char :=
  dropEndWhile isBlank (s.dropWhile isBlank)

/-- A text without the blanks at its ends. -/
def trim (s : String) : String :=
  String.ofList (trimChars s.toList)

/-- The first word of a text that does not start with a blank, and the text after the
blank behind it. -/
def cutWord (s : List Char) : List Char × List Char :=
  (s.takeWhile fun c => !isBlank c, (s.dropWhile fun c => !isBlank c).drop 1)

/-- Every character that core calls white space is a blank. -/
theorem isBlank_of_isWhitespace {c : Char} (h : c.isWhitespace) : isBlank c := by
  simp only [Char.isWhitespace, Bool.or_eq_true, decide_eq_true_eq] at h
  rcases h with ((rfl | rfl) | rfl) | rfl <;> decide

end EvalConsole.Text
