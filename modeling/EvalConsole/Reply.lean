/-
Outcomes of a submission, and the text they are shown with.

A body is classified by two members of an object: `error` wins over `result`, and
either counts only when it is truthy. Everything else is unknown and is shown whole.
Floats that stand for integers are shown as integers.

* `Reply.ofJson` classifies a value, `Reply.parse` a body.
* `Outcome.render` is the text shown for a finished submission.
-/
import EvalConsole.Json.Reader
import EvalConsole.Json.Writer

namespace EvalConsole

/-- What a server answered. -/
inductive Reply where
  /-- The expression has a value. -/
  | result (text : String)
  /-- The expression has none, for the reason given. -/
  | error (text : String)
  /-- Neither: the body as compact JSON. -/
  | unknown (json : String)
  deriving DecidableEq, Repr

/-- Why there is no reply. -/
inductive FetchError where
  /-- No answer arrived, or its body is not JSON. -/
  | transport (message : String)
  /-- The answer has a status that is no success. -/
  | status (code : UInt16)
  deriving DecidableEq, Repr

/-- How a submission ended. -/
abbrev Outcome := Except FetchError Reply

namespace Reply

/-- The text of a member: a text verbatim, any other value as compact JSON. -/
def textOf : Json → String
  | .string s => s
  | v => v.write

/-- The value of a member, if it is there and truthy. -/
def present? (name : String) (v : Json) : Option Json :=
  (v.member? name).filter Json.isTruthy

/-- The reply that a value denotes. -/
def ofJson (v : Json) : Reply :=
  let shown := v.foldIntegral
  match present? "error" shown with
  | some member => .error (textOf member)
  | none =>
    match present? "result" shown with
    | some member => .result (textOf member)
    | none => .unknown shown.write

/-- The reply that a body denotes; a body that is not JSON is a failure of transport. -/
def parse (body : String) : Outcome :=
  match Json.parse body with
  | .ok v => .ok (ofJson v)
  | .error message => .error (.transport message)

/-- The text shown for a reply. -/
def display : Reply → String
  | result text => "Result: " ++ text
  | error text => "Error: " ++ text
  | unknown json => "Unknown response: " ++ json

end Reply

/-- The text of a failure on its own. -/
def FetchError.display : FetchError → String
  | transport message => message
  | status code => "status " ++ toString code.toNat

/-- The text shown for a finished submission. -/
def Outcome.render : Outcome → String
  | .ok reply => reply.display
  | .error (.status code) => "Server error: " ++ toString code.toNat
  | .error (.transport message) => "Fetch error: " ++ message

end EvalConsole
