/-
Requests and what becomes of them.

* `HttpRequest` is a request, `HttpResponse` a final response to one.
* `Answer` says what becomes of a request that is sent to a server.
* `TransportError` says why there is no response.
-/
import EvalConsole.Text.Base64
import EvalConsole.Url.Reader

namespace EvalConsole

/-- The methods. -/
inductive Method where
  | get
  | post
  deriving DecidableEq, Repr

/-- The word for a method. -/
def Method.text : Method → String
  | get => "GET"
  | post => "POST"

/-- A request. -/
structure HttpRequest where
  method : Method
  /-- The address, user included. -/
  url : Url
  contentType : Option String
  authorization : Option String
  body : String
  deriving DecidableEq

/-- A response that is final: it does not only say that another one is to come. -/
structure HttpResponse where
  status : UInt16
  contentType : Option String
  location : Option String
  body : List UInt8
  /-- Whether the body came in chunks. -/
  chunked : Bool
  /-- Whether the connection ended before the body did. -/
  truncated : Bool
  isFinal : status = 101 ∨ 200 ≤ status ∧ status ≤ 999 := by decide
  deriving DecidableEq

/-- What becomes of a request that is sent to a server. -/
inductive Answer where
  /-- There is no way to the server, for causes that are told. -/
  | unreachable (causes : List String)
  /-- An interim response comes first. -/
  | interim (next : Answer)
  | response (r : HttpResponse)
  /-- The server ends the connection. -/
  | close
  /-- The server answers with something else than a response, or with a status that is none. -/
  | garbage
  /-- The server never answers, or not in time. -/
  | silence
  deriving DecidableEq

/-- Whether the server sees the request. -/
def Answer.isSeen : Answer → Bool
  | unreachable _ => false
  | _ => true

/-- Why there is no response. -/
inductive TransportError where
  /-- The address is none that a request can carry. -/
  | badAddress
  /-- There is no way to the host. -/
  | unreachable (causes : List String)
  | closed
  | garbage
  | timedOut
  | truncated
  /-- The response from an address asks for one redirection more than are followed. -/
  | tooManyRedirects (asking : Url)
  /-- The location that a response names is no address. -/
  | badLocation (cause : UrlError)
  /-- The location that a response names is not on the web. -/
  | foreignScheme (location : Url)
  deriving DecidableEq

/-- A request as a server sees it. -/
structure SeenRequest where
  method : String
  target : String
  contentType : Option String
  authorization : Option String
  body : String
  deriving DecidableEq, Repr

/-- What a server sees of a request: neither the user nor the fragment of its address. -/
def HttpRequest.seen (r : HttpRequest) : SeenRequest :=
  ⟨r.method.text, r.url.withoutUser.withoutFragment.text, r.contentType, r.authorization,
    r.body⟩

namespace Url

/-- What tells a server who asks, if the address names a user. -/
def authorization? (url : Url) : Option String :=
  if url.userinfo = .anonymous then none
  else
    let bytes := Percent.decode url.userinfo.user ++ 0x3A :: Percent.decode url.userinfo.password
    some ("Basic " ++ String.ofList (Base64.encode bytes))

/-- Whether a request can carry the address: a few characters that hosts may have are not
among those of a request. -/
def isSendable (url : Url) : Bool :=
  ((url.host.map Host.text).getD []).all fun c => !(['"', '\x60', '\x7b', '\x7d'].contains c)

end Url

end EvalConsole
