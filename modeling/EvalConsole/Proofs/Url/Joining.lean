/-
Joining the endpoint path onto the address of a server.

The path starts with a single slash, so it replaces the path of the server and takes its query
and its fragment away; who asks, the host and the port stay. What the server's path was does
not matter, as long as it is divided into segments.

Main statements:

* `resolve_endpointPath`: what joining gives.
* `endpoint_eq_ok_iff`: the servers that have an endpoint, and which.
-/
import EvalConsole.Endpoint

namespace EvalConsole

namespace Url

/-- The address on the same server that expressions are sent to. -/
def toEndpoint (base : Url) : Url :=
  { base with
    path := .segments ["api".toList, "expr".toList]
    query := none
    fragment := none }

theorem readSegments_endpointPath (special : Bool) :
    readSegments special [] "api/expr".toList = ["api".toList, "expr".toList] := by
  cases special <;> decide

/-- The rest of an address of which only the path is there. -/
theorem withRest_endpointPath (scheme : List Char) (server : Server) :
    withRest scheme server endpointPath.toList =
      ⟨scheme, server.userinfo, server.host, server.port,
        .segments ["api".toList, "expr".toList], none, none⟩ := by
  have ends : splitEnd (isSpecial scheme) endpointPath.toList =
      ('/' :: "api/expr".toList, none, none) := rfl
  have slash : isSlash (isSpecial scheme) '/' = true := rfl
  simp only [withRest, ends, slash, if_true, readSegments_endpointPath]

theorem resolve_endpointPath {base : Url} {segments : List (List Char)}
    (h : base.path = .segments segments) : base.resolve endpointPath = .ok base.toEndpoint := by
  have cleaned : clean endpointPath.toList = '/' :: "api/expr".toList := by decide
  have noScheme : splitScheme? ('/' :: "api/expr".toList) = none := by decide
  have slash : isSlash (isSpecial base.scheme) '/' = true := rfl
  -- one slash only: what follows is no server
  have letter : isSlash (isSpecial base.scheme) 'a' = false := by simp [isSlash]
  have rest := withRest_endpointPath base.scheme ⟨base.userinfo, base.host, base.port⟩
  simp only [resolve, cleaned, noScheme, h]
  simpa [readRelative, slash, letter, toEndpoint, endpointPath] using rest

theorem resolve_endpointPath_of_plain {base : Url} {text : List Char}
    (h : base.path = .plain text) : base.resolve endpointPath = .error .baseWithoutPath := by
  have cleaned : clean endpointPath.toList = '/' :: "api/expr".toList := by decide
  have noScheme : splitScheme? ('/' :: "api/expr".toList) = none := by decide
  simp only [resolve, cleaned, noScheme, h]
  rfl

end Url

open Url

/-- An address of the web has an endpoint unless its path is not divided. -/
theorem endpoint_eq_ok_iff {server : String} {url : Url} :
    endpoint server = .ok url ↔
      ∃ base segments, Url.parse (Text.trim server) = .ok base ∧
        isWebScheme base.scheme = true ∧ base.path = .segments segments ∧
        base.toEndpoint = url := by
  unfold endpoint
  cases parsed : Url.parse (Text.trim server) with
  | error cause => simp
  | ok base =>
    by_cases web : isWebScheme base.scheme = true
    · cases path : base.path with
      | segments all =>
        have joined : (base.resolve endpointPath).mapError (EndpointError.unjoinable server) =
            .ok base.toEndpoint := by
          rw [resolve_endpointPath path]
          rfl
        simp only [web, if_true, joined, Except.ok.injEq]
        constructor
        · rintro rfl
          exact ⟨base, all, rfl, web, path, rfl⟩
        · rintro ⟨_, _, rfl, -, -, rfl⟩
          rfl
      | plain text =>
        have unjoined : (base.resolve endpointPath).mapError (EndpointError.unjoinable server) =
            .error (EndpointError.unjoinable server .baseWithoutPath) := by
          rw [resolve_endpointPath_of_plain path]
          rfl
        simp only [web, if_true, unjoined, Except.ok.injEq]
        constructor
        · rintro ⟨⟩
        · rintro ⟨_, _, rfl, -, divided, -⟩
          rw [path] at divided
          cases divided
    · simp [web]

end EvalConsole
