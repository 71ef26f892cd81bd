/-
Evaluating expressions on a server.

An expression is posted to the endpoint of a server. A response with a status of success is
read as a reply; any other status is the outcome by itself.

* `Evaluator.of` is the evaluator for a server.
* `Evaluator.evaluate` sends an expression and reads what comes back.
* `Evaluator.shownTexts` is what is shown for it.
-/
import EvalConsole.Display
import EvalConsole.Endpoint
import EvalConsole.Http.Client
import EvalConsole.Notice
import EvalConsole.Reply
import EvalConsole.Submission

namespace EvalConsole

/-- Where expressions are sent, and how many milliseconds are waited for an answer. -/
structure Evaluator where
  endpoint : Url
  timeout : Option Nat
  deriving DecidableEq

/-- Whether a status is one of success. -/
def isSuccess (status : UInt16) : Bool :=
  200 ≤ status && status < 300

namespace Evaluator

/-- The evaluator for the server that a text names. -/
def of (server : String) (timeout : Option Nat) : Except EndpointError Evaluator :=
  (EvalConsole.endpoint server).map fun endpoint => ⟨endpoint, timeout⟩

/-- The request that carries an expression. -/
def request (e : Evaluator) (expr : String) : HttpRequest where
  method := .post
  url := e.endpoint
  contentType := some "application/json"
  authorization := e.endpoint.authorization?
  body := expressionBody expr

/-- The statuses whose responses have no body. -/
def hasNoBody (status : UInt16) : Bool :=
  status == 204 || status == 304

/-- The text that a response brings; some statuses bring none. -/
def bodyText (library : HttpLibrary) (response : HttpResponse) : String :=
  library.decode response.contentType (if hasNoBody response.status then [] else response.body)

/-- The outcome that a response from an address stands for. -/
def outcomeOf (library : HttpLibrary) (url : Url) (response : HttpResponse) : Outcome :=
  if isSuccess response.status then
    if !hasNoBody response.status && response.truncated then
      .error (.transport (library.describe url .truncated))
    else Reply.parse (bodyText library response)
  else .error (.status response.status)

/-- An expression sent: the requests seen by servers, what was noted about the answer, the
outcome unless it is still waited for, and the network after it. -/
structure Evaluation where
  seen : List SeenRequest
  notices : List Notice
  outcome : Option Outcome
  network : Network

/-- What is noted before an expression is sent. -/
def announcement (e : Evaluator) (expr : String) : Notice :=
  .submitting e.endpoint.text expr.utf8ByteSize

/-- Sends an expression and reads what comes back. -/
def evaluate (e : Evaluator) (network : Network) (expr : String) : Evaluation :=
  let exchange := network.fetch e.timeout (e.request expr)
  match exchange.result with
  | none => ⟨exchange.seen, [], none, exchange.network⟩
  | some (.error failure) =>
    let message := network.library.describe e.endpoint failure
    ⟨exchange.seen, [.requestFailed message], some (.error (.transport message)),
      exchange.network⟩
  | some (.ok (url, response)) =>
    ⟨exchange.seen, [.responseReceived response.status],
      some (outcomeOf network.library url response), exchange.network⟩

/-- Whether an outcome is a reply. -/
def isReply : Outcome → Bool
  | .ok _ => true
  | .error _ => false

/-- The texts shown for a submission: first that it is running, and its outcome once it is
there. -/
def shownTexts (evaluation : Evaluation) : List String :=
  runningText :: (evaluation.outcome.map Outcome.render).toList

end Evaluator

end EvalConsole
