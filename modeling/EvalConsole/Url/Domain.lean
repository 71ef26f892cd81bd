/-
Host names in ASCII.

Each character of a name is mapped, the whole is brought into composed normal form and cut
into labels at its dots. A label in ASCII stays; a label that is marked as the ASCII
form of another one has to be the form of a valid label; every other label has to be valid and
is replaced by its marked ASCII form. A name with a letter that is written from right
to left keeps the rule for mixed directions in each of its labels.

* `Domain.toAscii?` is the ASCII form of a name, if it has one.
-/
import EvalConsole.Text.Split
import EvalConsole.Unicode.Bidi
import EvalConsole.Unicode.HostMapping
import EvalConsole.Unicode.Joining
import EvalConsole.Unicode.Mark
import EvalConsole.Unicode.Normalization
import EvalConsole.Url.Punycode

namespace EvalConsole.Domain

open Unicode

/-! ### Characters -/

/-- The characters that no mapped host name may hold, even written with a percent sign. -/
def isForbidden (c : Char) : Bool :=
  c.toNat ≤ 0x20 || c.toNat == 0x7F || c.isUpper
    || ['#', '/', ':', '<', '>', '?', '@', '[', '\\', ']', '^', '|', '%'].contains c

/-- Whether a text is ASCII. -/
def isAscii (s : List Char) : Bool :=
  s.all fun c => c.toNat < 0x80

/-- A name with its characters mapped. -/
def mapped? : List Char → Option (List Char)
  | [] => some []
  | c :: rest =>
    match HostMapping.of c with
    | .valid => (mapped? rest).map (c :: ·)
    | .replaced image => (mapped? rest).map (image ++ ·)
    | .disallowed => none

/-! ### Joiners -/

/-- The combining class of the signs that silence the vowel of the letter before them. -/
def viramaClass : Nat :=
  9

/-- The joining type of the first character that is not looked through. -/
def nextJoining : List Char → Joining
  | [] => .none
  | c :: rest =>
    match joining c with
    | .transparent => nextJoining rest
    | type => type

/-- Whether each joiner stands behind a virama, or, the one that separates, between two
letters that would join. `before` is the text before, last character first. -/
def joinersFit (before : List Char) : List Char → Bool
  | [] => true
  | c :: rest =>
    let afterVirama := (before.head?.map combiningClass) == some viramaClass
    let fits :=
      if c.toNat = 0x200C then
        afterVirama
          || (nextJoining before == .left || nextJoining before == .dual)
            && (nextJoining rest == .right || nextJoining rest == .dual)
      else c.toNat != 0x200D || afterVirama
    fits && joinersFit (c :: before) rest

/-! ### Directions -/

/-- Whether a class is that of letters and numbers written from right to left. -/
def isRightToLeft (d : Direction) : Bool :=
  d == .rightToLeft || d == .arabicLetter || d == .arabicNumber

/-- The classes that may stand in a label of either direction. -/
def isCommon (d : Direction) : Bool :=
  [.europeanNumber, .europeanSeparator, .europeanTerminator, .commonSeparator,
    .nonspacingMark, .boundaryNeutral, .otherNeutral].contains d

/-- The classes of a label without the marks at its end. -/
def withoutFinalMarks (ds : List Direction) : List Direction :=
  (ds.reverse.dropWhile (· == .nonspacingMark)).reverse

/-- The rule for labels of a name with letters written from right to left: the first
character decides on the direction of the label; the others have to fit that direction, the
last one that is no mark even more so, and the two kinds of numbers do not meet in a label
written from right to left. -/
def directionsFit (label : List Char) : Bool :=
  let classes := label.map direction
  match classes with
  | [] => true
  | first :: _ =>
    let last := (withoutFinalMarks classes).getLast?
    if first == .leftToRight then
      classes.all (fun d => d == .leftToRight || isCommon d)
        && (last == some .leftToRight || last == some .europeanNumber)
    else if first == .rightToLeft || first == .arabicLetter then
      classes.all (fun d => isRightToLeft d || isCommon d)
        && (last == some .rightToLeft || last == some .arabicLetter
          || last == some .europeanNumber || last == some .arabicNumber)
        && !(classes.contains .europeanNumber && classes.contains .arabicNumber)
    else false

/-! ### Labels -/

/-- What marks the ASCII form of a label. -/
def formMark : List Char :=
  ['x', 'n', '-', '-']

/-- Whether a label may be shown: it is in normal form, carries no mark of an ASCII form,
does not start with a combining mark, and its characters are valid and fit. -/
def isValidLabel (label : List Char) : Bool :=
  nfc label == label
    && !formMark.isPrefixOf label
    && !(label.head?.map isMark == some true)
    && label.all (fun c => HostMapping.of c == .valid)
    && joinersFit [] label

/-- A label as it is shown and as it is written in ASCII. -/
structure Label where
  shown : List Char
  ascii : List Char
  deriving DecidableEq, Repr

/-- The label that a field of a mapped name denotes. -/
def Label.of? (field : List Char) : Option Label :=
  if formMark.isPrefixOf field then
    if isAscii field then
      match Punycode.decode? (field.drop formMark.length) with
      | some shown =>
        if !isAscii shown && isValidLabel shown then some ⟨shown, field⟩ else none
      | none => none
    else none
  else if isAscii field then some ⟨field, field⟩
  else if isValidLabel field then some ⟨field, formMark ++ Punycode.encode field⟩
  else none

/-- Whether the labels of a name keep the rule for mixed directions, if it applies. -/
def labelsFit (labels : List Label) : Bool :=
  let mixed := labels.any fun l => l.shown.any fun c => isRightToLeft (direction c)
  !mixed || labels.all fun l => directionsFit l.shown

/-- The ASCII form of a name. -/
def toAscii? (name : List Char) : Option (List Char) :=
  match mapped? name with
  | none => none
  | some mapped =>
    let normal := nfc mapped
    if normal.any isForbidden then none
    else
      match (Text.splitOn (· == '.') normal).mapM Label.of? with
      | none => none
      | some labels =>
        if labelsFit labels then some (Text.join '.' (labels.map Label.ascii)) else none

end EvalConsole.Domain
