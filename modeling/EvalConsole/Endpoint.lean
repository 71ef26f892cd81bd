/-
Where expressions are sent.

A server is given by the address of anything on it; expressions go to one fixed path.

* `endpoint` is the address that belongs to a server.
-/
import EvalConsole.Url.Reader

namespace EvalConsole

/-- The path that expressions are sent to. -/
def endpointPath : String :=
  "/api/expr"

/-- Why a text names no server. -/
inductive EndpointError where
  /-- The text is no address. -/
  | invalid (server : String) (cause : UrlError)
  /-- The address is not one of the web. -/
  | unsupportedScheme (server : String)
  /-- The fixed path does not fit the address. -/
  | unjoinable (server : String) (cause : UrlError)
  deriving DecidableEq, Repr

/-- The texts of a failure, from the outermost to its root. -/
def EndpointError.chain : EndpointError → List String
  | invalid server cause => ["invalid server URL: " ++ server, cause.message]
  | unsupportedScheme server => ["unsupported scheme in server URL: " ++ server]
  | unjoinable server cause => ["cannot build endpoint from " ++ server, cause.message]

/-- Whether a scheme is one of the web. -/
def isWebScheme (scheme : List Char) : Bool :=
  scheme == "http".toList || scheme == "https".toList

/-- The address that expressions are sent to, for the text that names a server. -/
def endpoint (server : String) : Except EndpointError Url :=
  match Url.parse (Text.trim server) with
  | .error cause => .error (.invalid server cause)
  | .ok base =>
    if isWebScheme base.scheme then
      (base.resolve endpointPath).mapError (.unjoinable server)
    else .error (.unsupportedScheme server)

end EvalConsole
