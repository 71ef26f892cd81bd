/-
Which notes are written down.

A filter is a list of rules, written with commas between them: a level, a level for the
parts of the program whose names start in a certain way (`name=level`), or such a name
alone, which stands for all levels.

* `NoticeFilter.parse?` reads a filter.
* `NoticeFilter.allows` says whether a note is written down: the rule with the longest
  name that fits decides.

Design notes
------------
A rule with a name in square brackets is for notes made within a span of work of that
name. There are no such spans, so the rule is read and never fits.
-/
import EvalConsole.Arguments.Basic
import EvalConsole.Notice
import EvalConsole.Text.Blank
import EvalConsole.Text.Split

namespace EvalConsole

/-- A rule: the notes of the parts whose names start with `target` are written down up to
the level of rank `limit`. -/
structure NoticeRule where
  target : String
  limit : Nat
  deriving DecidableEq, Repr

/-- The rules for notes; a later one replaces an earlier one for the same parts. -/
structure NoticeFilter where
  rules : List NoticeRule
  deriving DecidableEq, Repr

namespace NoticeFilter

open Text

/-- The rank of the last level. -/
def everything : Nat :=
  Level.trace.rank

/-- The words for the levels, in any case, with the ranks of the levels. -/
def levelWords : List (String × Nat) :=
  [("off", 0), ("error", 1), ("warn", 2), ("info", 3), ("debug", 4), ("trace", 5)]

/-- The rank of a level that is given by a number or a word. -/
def limit? (s : List Char) : Option Nat :=
  match readNumber (String.ofList s) with
  | .ok n => if n ≤ everything then some n else none
  | .error _ => levelWords.lookup (String.ofList (s.map Char.toLower))

/-- The rank of a level behind an equals sign, where nothing stands for all levels. -/
def limitBehind? (s : List Char) : Option Nat :=
  if s.isEmpty then some everything else limit? s

/-- Whether a name can start with a character. -/
def startsName (c : Char) : Bool :=
  c.isAlphanum || 0x80 ≤ c.toNat || ['-', ':', '_'].contains c

/-- Reads what stands behind an opening bracket; whether it is as it should be. -/
def isSpan (s : List Char) : Bool :=
  let isEnd (rest : List Char) : Bool :=
    match rest with
    | [] => true
    | c :: level => c == '=' && (limitBehind? level).isSome
  match s.dropWhile fun c => c != ']' && c != '\x7b' with
  | ']' :: rest => isEnd rest
  | '\x7b' :: fields =>
    match fields.takeWhile (· != '\x7d'), fields.dropWhile (· != '\x7d') with
    | _ :: _, _ :: ']' :: rest => isEnd rest
    | _, _ => false
  | _ => false

/-- Reads a rule; the answer is an empty list for a rule that never fits. -/
def rule? (s : List Char) : Option (List NoticeRule) :=
  let spanned (rest : List Char) : Option (List NoticeRule) :=
    if isSpan rest then some [] else none
  match s with
  | [] => none
  | '[' :: rest => spanned rest
  | c :: _ =>
    if startsName c then
      let name := s.takeWhile fun c => c != '=' && c != '['
      match s.drop name.length with
      | [] =>
        match limit? name with
        | some limit => some [⟨"", limit⟩]
        | none => some [⟨String.ofList name, everything⟩]
      | '=' :: level => (limitBehind? level).map fun limit => [⟨String.ofList name, limit⟩]
      | _ :: rest => spanned rest
    else none

/-- The filter that lets errors through. -/
def errorsOnly : NoticeFilter :=
  ⟨[⟨"", Level.error.rank⟩]⟩

/-- The filter in effect when none is given, or one that cannot be read. -/
def standard : NoticeFilter :=
  ⟨[⟨"", Level.warn.rank⟩]⟩

/-- Reads a filter. Without a rule errors are let through. -/
def parse? (s : String) : Option NoticeFilter :=
  match (splitOn (· == ',') s.toList).filter fun field => !field.isEmpty with
  | [] => some errorsOnly
  | fields => (fields.mapM fun field => rule? (trimChars field)).map fun rules => ⟨rules.flatten⟩

/-- The variable of the environment that asks for a filter. -/
def variableName : String :=
  "RUST_LOG"

/-- The filter that the environment asks for. -/
def ofVariable (preset? : Option String) : NoticeFilter :=
  (preset?.bind parse?).getD standard

/-- The rule with the longer name, of two; the second one if they have one name. -/
def decisive (best : Option NoticeRule) (rule : NoticeRule) : Option NoticeRule :=
  match best with
  | some other => if rule.target.length < other.target.length then best else some rule
  | none => some rule

/-- Whether a note is written down. -/
def allows (filter : NoticeFilter) (notice : Notice) : Bool :=
  let fitting := filter.rules.filter fun rule => rule.target.toList.isPrefixOf notice.target.toList
  match fitting.foldl decisive none with
  | some rule => notice.level.rank ≤ rule.limit
  | none => false

end NoticeFilter

/-- A note as it is written down, behind the time. -/
def Notice.line (notice : Notice) (time : String) : String :=
  time ++ " " ++ notice.level.label ++ " " ++ notice.text ++ "\n"

end EvalConsole
