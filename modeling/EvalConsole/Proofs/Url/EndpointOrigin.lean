/-
The endpoint of a server is that of its origin.

Of the address that names a server only what comes before the path matters. An address of the web
names a server and has a path that is divided, so the endpoint path always fits; and the endpoint
is read back from its text, so that it is its own endpoint.

Main statements:

* `endpoint_eq`: what the endpoint is, failures included.
* `endpoint_of_origin`: it goes by the scheme, the user, the host and the port alone.
-/
import EvalConsole.Proofs.Url.Rereading

namespace EvalConsole

open Url

/-- The endpoint of every text: no address of the web is left that the path does not fit. -/
theorem endpoint_eq (server : String) : endpoint server =
    match Url.parse (Text.trim server) with
    | .error cause => .error (.invalid server cause)
    | .ok base =>
      if isWebScheme base.scheme then .ok base.toEndpoint
      else .error (.unsupportedScheme server) := by
  unfold endpoint
  cases parsed : Url.parse (Text.trim server) with
  | error cause => rfl
  | ok base =>
    by_cases web : isWebScheme base.scheme = true
    · obtain ⟨named, rest, -, whole⟩ := server_of_parse parsed web
      have divided : ∃ segments, base.path = .segments segments := by
        rw [whole]
        exact ⟨_, rfl⟩
      obtain ⟨segments, path⟩ := divided
      dsimp only
      rw [if_pos web, if_pos web, resolve_endpointPath path]
      rfl
    · dsimp only
      rw [if_neg web, if_neg web]

theorem endpoint_of_parse {server : String} {base : Url}
    (h : Url.parse (Text.trim server) = .ok base) (web : isWebScheme base.scheme = true) :
    endpoint server = .ok base.toEndpoint := by
  rw [endpoint_eq, h]
  exact if_pos web

/-- The servers that have an endpoint are the addresses of the web. -/
theorem exists_parse_of_endpoint {server : String} {url : Url} (h : endpoint server = .ok url) :
    ∃ base, Url.parse (Text.trim server) = .ok base ∧ isWebScheme base.scheme = true ∧
      url = base.toEndpoint := by
  obtain ⟨base, _, parsed, web, -, rfl⟩ := endpoint_eq_ok_iff.mp h
  exact ⟨base, parsed, web, rfl⟩

theorem text_path_toEndpoint (base : Url) :
    base.toEndpoint.path.text = endpointPath.toList := by
  have path : base.toEndpoint.path = .segments ["api".toList, "expr".toList] := rfl
  rw [path]
  decide

/-- Addresses on one server have one endpoint. -/
theorem toEndpoint_congr {base other : Url} (scheme : other.scheme = base.scheme)
    (userinfo : other.userinfo = base.userinfo) (host : other.host = base.host)
    (port : other.port = base.port) : other.toEndpoint = base.toEndpoint := by
  rw [toEndpoint, toEndpoint, scheme, userinfo, host, port]

/-- A text has an endpoint if and only if, trimmed, it is an address behind `http` or `https`, and
otherwise the fault is never in the endpoint path. The endpoint has the scheme, the user, the host
and the port of that address, the fixed path, no query and no fragment. It is also the endpoint
of every other text whose address agrees in these four parts, and of its own text. -/
theorem endpoint_of_origin (server : String) :
    ((∃ url, endpoint server = .ok url) ↔
      ∃ base, Url.parse (Text.trim server) = .ok base ∧
        (base.scheme = "http".toList ∨ base.scheme = "https".toList)) ∧
    (∀ text cause, endpoint server ≠ .error (.unjoinable text cause)) ∧
    ∀ url, endpoint server = .ok url →
      (∃ base, Url.parse (Text.trim server) = .ok base ∧
        url.scheme = base.scheme ∧ url.userinfo = base.userinfo ∧ url.host = base.host ∧
        url.port = base.port ∧ url.path = .segments ["api".toList, "expr".toList] ∧
        url.path.text = endpointPath.toList ∧ url.query = none ∧ url.fragment = none ∧
        ∀ other otherBase, Url.parse (Text.trim other) = .ok otherBase →
          otherBase.scheme = base.scheme → otherBase.userinfo = base.userinfo →
          otherBase.host = base.host → otherBase.port = base.port →
          endpoint other = .ok url) ∧
      (∀ other, Text.trim other = Text.trim server → endpoint other = .ok url) ∧
      endpoint url.text = .ok url := by
  refine ⟨⟨?_, ?_⟩, ?_, ?_⟩
  · rintro ⟨url, accepted⟩
    obtain ⟨base, parsed, web, -⟩ := exists_parse_of_endpoint accepted
    exact ⟨base, parsed, web_cases web⟩
  · rintro ⟨base, parsed, web⟩
    exact ⟨_, endpoint_of_parse parsed (by simpa [isWebScheme] using web)⟩
  · intro text cause
    rw [endpoint_eq]
    split
    · simp
    · split <;> simp
  · intro url accepted
    obtain ⟨base, parsed, web, rfl⟩ := exists_parse_of_endpoint accepted
    refine ⟨⟨base, parsed, rfl, rfl, rfl, rfl, rfl, text_path_toEndpoint base, rfl, rfl, ?_⟩, ?_, ?_⟩
    · intro other otherBase otherParsed scheme userinfo host port
      have otherWeb : isWebScheme otherBase.scheme = true := scheme ▸ web
      rw [endpoint_of_parse otherParsed otherWeb, toEndpoint_congr scheme userinfo host port]
    · intro other trimmed
      exact endpoint_of_parse (trimmed ▸ parsed) web
    · have again : endpoint base.toEndpoint.text = .ok base.toEndpoint.toEndpoint :=
        endpoint_of_parse (parse_text_toEndpoint parsed web) web
      exact again

/-- Capitals, a missing slash, a line's tab, a port that goes without saying, a backslash and all
that is behind it make no difference. -/
theorem endpoint_of_origin_spellings :
    ∃ url, endpoint " HTTP:/me@Local\thost:80\\a/../b?q#f " = .ok url ∧
      url.text = "http://me@localhost/api/expr" ∧
      endpoint "http://me@LOCALHOST/c" = .ok url ∧ endpoint url.text = .ok url := by
  have parsed : Url.parse (Text.trim " HTTP:/me@Local\thost:80\\a/../b?q#f ") =
      .ok ⟨"http".toList, ⟨"me".toList, []⟩, some (.name "localhost".toList), none,
        .segments ["b".toList], some "q".toList, some "f".toList⟩ := by decide +kernel
  have otherParsed : Url.parse (Text.trim "http://me@LOCALHOST/c") =
      .ok ⟨"http".toList, ⟨"me".toList, []⟩, some (.name "localhost".toList), none,
        .segments ["c".toList], none, none⟩ := by decide +kernel
  obtain ⟨accepts, -, of_ok⟩ := endpoint_of_origin " HTTP:/me@Local\thost:80\\a/../b?q#f "
  obtain ⟨found, accepted⟩ := accepts.mpr ⟨_, parsed, .inl rfl⟩
  obtain ⟨⟨base, baseParsed, scheme, userinfo, host, port, path, -, query, fragment, same⟩, -,
    again⟩ := of_ok found accepted
  obtain rfl := Except.ok.inj (parsed.symm.trans baseParsed)
  refine ⟨found, accepted, ?_, same _ _ otherParsed rfl rfl rfl rfl, again⟩
  rw [text, chars, hostText, scheme, userinfo, host, port, path, query, fragment]
  decide +kernel

end EvalConsole
