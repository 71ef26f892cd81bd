/-
JSON values.

A number keeps apart whether it was written as an integer or as a float, since the
two print differently. An object is the list of its members in the order in which
their names first appeared; `Json.Members.insert` keeps the names distinct.

* `Json.member?` looks a member up.
* `Json.foldIntegral` replaces floats without a fraction by integers.
* `Json.isTruthy` says which values count as present.
-/
import EvalConsole.Number.Binary64

namespace EvalConsole

/-- A JSON value. -/
inductive Json where
  | null
  | bool (value : Bool)
  | int (value : Int)
  | float (value : Binary64)
  | string (value : String)
  | array (items : List Json)
  | object (members : List (String × Json))

namespace Json

/-- Sets a member: a new name goes to the end, a known one keeps its place and takes the
new value. -/
def Members.insert (name : String) (value : Json) :
    List (String × Json) → List (String × Json)
  | [] => [(name, value)]
  | (key, old) :: rest =>
    if key = name then (key, value) :: rest
    else (key, old) :: Members.insert name value rest

/-- The members that a sequence of written members denotes. -/
def Members.ofWritten (written : List (String × Json)) : List (String × Json) :=
  written.foldl (fun members member => Members.insert member.1 member.2 members) []

/-- The value of a member of an object; nothing for other values. -/
def member? (name : String) : Json → Option Json
  | object members => members.lookup name
  | _ => none

/-- Whether a value counts as present: everything but `null`, `false`, zeros of either
kind and the empty text. -/
def isTruthy : Json → Bool
  | null => false
  | bool value => value
  | int value => value != 0
  | float value => !value.isZero
  | string value => value != ""
  | array _ => true
  | object _ => true

/-- The bound below which every integer is a double of its own. -/
def exactIntegerLimit : Nat :=
  Nat.pow 2 53

/-- The integer that a double stands for, if it has no fraction and its magnitude is
below `2 ^ 53`. -/
def foldedInt? (x : Binary64) : Option Int :=
  match x.toInt? with
  | some n => if n.natAbs < exactIntegerLimit then some n else none
  | none => none

mutual

/-- Replaces every float that stands for an integer by that integer, at any depth. -/
def foldIntegral : Json → Json
  | null => null
  | bool value => bool value
  | int value => int value
  | float value =>
    match foldedInt? value with
    | some n => int n
    | none => float value
  | string value => string value
  | array items => array (foldItems items)
  | object members => object (foldMembers members)

/-- `foldIntegral` on each item of an array. -/
def foldItems : List Json → List Json
  | [] => []
  | item :: rest => foldIntegral item :: foldItems rest

/-- `foldIntegral` on each value of an object. -/
def foldMembers : List (String × Json) → List (String × Json)
  | [] => []
  | (name, value) :: rest => (name, foldIntegral value) :: foldMembers rest

end

end Json

end EvalConsole
