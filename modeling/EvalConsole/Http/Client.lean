/-
Sending requests.

A response that leads elsewhere is followed, up to ten times: behind some statuses the request is
repeated there, behind others a plain request without a body takes its place. Interim responses
are passed over.

* `Network` says what becomes of requests: nothing gets through, or servers answer them one after
  the other.
* `Network.send` sends one request.
* `Network.fetch` sends a request and follows its responses.

Design notes
------------
A time limit counts only for a server that does not answer: every other answer is in
time, unless no time is given at all. Without a limit a server that never answers is waited
for, which is the outcome `none`.
-/
import EvalConsole.Endpoint
import EvalConsole.Http.Library

namespace EvalConsole

/-- What becomes of requests. -/
inductive Network where
  /-- No host can be reached. -/
  | offline
  /-- Requests are answered in order, and one after the last answer ends the connection. The answers
  are those of the hosts that are asked, or say that there is no way to them. -/
  | online (answers : List Answer) (library : HttpLibrary := .plain)

namespace Network

/-- The library that sends the requests. -/
def library : Network → HttpLibrary
  | offline => .plain
  | online _ library => library

/-- What a request came to: the response or why there is none, or nothing ever. -/
abbrev Result := Option (Except TransportError HttpResponse)

/-- What a request sees of the network: the requests that servers have seen, what it came
to, and the network after it. -/
structure Exchange (α : Type) where
  seen : List SeenRequest
  result : α
  network : Network

/-- Why an address cannot be reached without a network. The way to a host behind `https` leads
through a tunnel, unless it is the local one. -/
def noRoute (url : Url) : List String :=
  let causes := ["tcp connect error", "Network is unreachable (os error 101)"]
  if url.scheme == "https".toList && url.host != some (.ipv4 0x7F000001) then
    "tunnel error: failed to create underlying connection" :: causes
  else causes

/-- What an answer comes to. -/
def receive (timeout : Option Nat) : Answer → Result
  | .unreachable causes => some (.error (.unreachable causes))
  | .interim next => receive timeout next
  | .response r => some (.ok r)
  | .close => some (.error .closed)
  | .garbage => some (.error .garbage)
  | .silence => timeout.map fun _ => .error .timedOut

/-- Sends one request. -/
def send (network : Network) (timeout : Option Nat) (request : HttpRequest) :
    Exchange Result :=
  match network with
  | offline => ⟨[], some (.error (.unreachable (noRoute request.url))), offline⟩
  | online answers library =>
    if timeout = some 0 then ⟨[], some (.error .timedOut), online answers library⟩
    else
      match answers with
      | [] => ⟨[request.seen], some (.error .closed), online [] library⟩
      | answer :: rest =>
        ⟨if answer.isSeen then [request.seen] else [], receive timeout answer, online rest library⟩

/-- What a request with its redirections came to: a response and the address that it came from, or
why there is none; nothing if a server is waited for. -/
abbrev FinalResult := Option (Except TransportError (Url × HttpResponse))

/-- Sends a request and follows its responses, `left` more times. -/
def follow (timeout : Option Nat) : (left : Nat) → Network → HttpRequest → Exchange FinalResult
  | left, network, request =>
    let exchange := network.send timeout request
    let ended (result : FinalResult) : Exchange FinalResult := { exchange with result }
    match exchange.result with
    | none => ended none
    | some (.error e) => ended (some (.error e))
    | some (.ok response) =>
      match network.library.direction request response, left with
      | .nowhere, _ => ended (some (.ok (request.url, response)))
      | .invalid cause, _ => ended (some (.error (.badLocation cause)))
      | .elsewhere _, 0 => ended (some (.error (.tooManyRedirects request.url)))
      | .elsewhere url, left + 1 =>
        if isWebScheme url.scheme then
          let others := follow timeout left exchange.network (request.redirected response.status url)
          { others with seen := exchange.seen ++ others.seen }
        else ended (some (.error (.foreignScheme url)))

/-- How many redirections are followed. -/
def maxRedirects : Nat :=
  10

/-- Sends a request, if its address can be sent, and follows its responses. -/
def fetch (network : Network) (timeout : Option Nat) (request : HttpRequest) :
    Exchange FinalResult :=
  if request.url.isSendable then follow timeout maxRedirects network request
  else ⟨[], some (.error .badAddress), network⟩

end Network

end EvalConsole
