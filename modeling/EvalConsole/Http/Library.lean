/-
The library that speaks to servers.

Where a location leads, what a body says and how a failure is told is up to the library that
sends the requests; everything else is the same for all libraries.

* `HttpLibrary` is what a library decides, `HttpLibrary.plain` the plainest of them.
* `HttpLibrary.direction` says where a response leads.
* `HttpLibrary.describe` is the text for a failure.
-/
import EvalConsole.Http.Message

namespace EvalConsole

/-- Where a location leads. -/
inductive Direction where
  /-- The location cannot be followed: the response that names it is taken as it is. -/
  | nowhere
  /-- The location can be followed, but turns out to be no address. -/
  | invalid (cause : UrlError)
  | elsewhere (url : Url)
  deriving DecidableEq

/-- What is up to the library that sends requests. -/
structure HttpLibrary where
  /-- How a location is read that a response from an address names. -/
  locate : Url → String → Direction
  /-- The text of a body with a description of its content. -/
  decode : Option String → List UInt8 → String
  /-- The texts of a failure from the outermost to its root, for a request to an address. -/
  causes : Url → TransportError → List String

namespace TransportError

/-- The usual texts of a failure. An address is told without its user. -/
def causes (url : Url) (e : TransportError) : List String :=
  let told (what : String) (url : Url) : String := what ++ " for url (" ++ url.withoutUser.text ++ ")"
  let sending := told "error sending request" url
  match e with
  | badAddress => [told "builder error" url, "Parsed Url is not a valid Uri"]
  | unreachable causes => sending :: "client error (Connect)" :: causes
  | closed => [sending, "client error (SendRequest)", "connection closed before message completed"]
  | garbage => [sending, "client error (SendRequest)", "invalid HTTP version parsed"]
  | timedOut => [sending, "operation timed out"]
  | truncated =>
    [told "error decoding response body" url, "error reading a body from connection",
      "end of file before message length reached"]
  | tooManyRedirects asking => [told "error following redirect" asking, "too many redirects"]
  | badLocation cause => [told "builder error" url, cause.message]
  | foreignScheme location => [told "builder error" location, "URL scheme is not allowed"]

end TransportError

namespace HttpLibrary

/-- A library that resolves locations as browsers do, and reads bodies as UTF-8. -/
def plain : HttpLibrary where
  locate base location :=
    match base.resolve location with
    | .ok url => if url.isSendable then .elsewhere url else .nowhere
    | .error _ => .nowhere
  decode _ bytes := Utf8.decodeLossy bytes
  causes := TransportError.causes

variable (library : HttpLibrary)

/-- The text for a failure: all its texts on one line. -/
def describe (url : Url) (e : TransportError) : String :=
  String.intercalate ": " (library.causes url e)

/-- Whether a status asks for a plain request at another location. -/
def asksForGet (status : UInt16) : Bool :=
  [301, 302, 303].contains status

/-- Whether a status asks for the same request at another location. -/
def asksForRepetition (status : UInt16) : Bool :=
  [307, 308].contains status

/-- Where a response leads: nowhere, unless it has a status that asks for a request at another
location, and names one. -/
def direction (request : HttpRequest) (response : HttpResponse) : Direction :=
  if asksForGet response.status || asksForRepetition response.status then
    match response.location with
    | some location => library.locate request.url.withoutUser location
    | none => .nowhere
  else .nowhere

end HttpLibrary

/-- The request that a status asks for at another address, in place of the first one. Who asks is
told to the same host only. -/
def HttpRequest.redirected (request : HttpRequest) (status : UInt16) (url : Url) : HttpRequest :=
  let sameHost :=
    url.host == request.url.host && url.effectivePort? == request.url.effectivePort?
  let authorization := if sameHost then request.authorization else none
  if HttpLibrary.asksForGet status then
    { method := .get, url, contentType := none, authorization, body := "" }
  else { request with url, authorization }

end EvalConsole
