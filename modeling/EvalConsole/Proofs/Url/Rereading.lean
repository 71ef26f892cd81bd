/-
Endpoints are read back from their texts.

An address of the web is a scheme, a server and what follows: reading its text takes the scheme off
at the colon, the slashes off, and the server at the slash behind it, which are all where writing
has put them.

Main statements:

* `Url.server_of_parse`: an address of the web names a server, and its path is divided.
* `Url.parse_text_toEndpoint`: the text of an endpoint is read as this endpoint.
-/
import EvalConsole.Proofs.Text.Trim
import EvalConsole.Proofs.Url.Joining
import EvalConsole.Proofs.Url.Server

namespace EvalConsole.Url

variable {scheme s : List Char} {url : Url}

/-! ### What has been read -/

theorem server_of_readAfterSlashes (h : readAfterSlashes scheme s = .ok url) :
    ∃ server ended text rest, readServer scheme ended text = .ok server ∧
      url = withRest scheme server rest := by
  unfold readAfterSlashes at h
  dsimp only at h
  cases read : readServer scheme (!(s.drop (serverText (isSpecial scheme) s).length).isEmpty)
      (serverText (isSpecial scheme) s) with
  | error cause =>
    rw [read] at h
    cases h
  | ok server =>
    rw [read] at h
    exact ⟨server, _, _, _, read, (Except.ok.inj h).symm⟩

theorem scheme_of_readFile (h : readFile scheme s = .ok url) : url.scheme = scheme := by
  have behind {drive : Prop} [Decidable drive] {noServer : Server} {onServer : Host → Server}
      {read : Except UrlError Host} {whole rest : List Char}
      (h : (if drive then pure (withRest scheme noServer whole)
        else do
          let host ← read
          return withRest scheme (onServer host) rest) = .ok url) : url.scheme = scheme := by
    split at h
    · obtain rfl := Except.ok.inj h
      rfl
    · cases read with
      | error cause => cases h
      | ok host =>
        obtain rfl := Except.ok.inj h
        rfl
  unfold readFile at h
  split at h
  · split at h
    · exact behind h
    · obtain rfl := Except.ok.inj h
      rfl
  · obtain rfl := Except.ok.inj h
    rfl

/-- The scheme of an address is the one that it has been read behind. -/
theorem scheme_of_readAfterScheme (h : readAfterScheme scheme s = .ok url) :
    url.scheme = scheme := by
  have of_slashes {s : List Char} (h : readAfterSlashes scheme s = .ok url) :
      url.scheme = scheme := by
    obtain ⟨_, _, _, _, -, rfl⟩ := server_of_readAfterSlashes h
    rfl
  unfold readAfterScheme at h
  split at h
  · exact scheme_of_readFile h
  · split at h
    · exact of_slashes h
    · split at h
      · exact of_slashes h
      · obtain rfl := Except.ok.inj h
        rfl
      · obtain rfl := Except.ok.inj h
        rfl

theorem web_cases (web : isWebScheme scheme = true) :
    scheme = "http".toList ∨ scheme = "https".toList := by
  simpa [isWebScheme] using web

theorem isSpecial_of_web (web : isWebScheme scheme = true) :
    isSpecial scheme = true ∧ isFile scheme = false := by
  obtain rfl | rfl := web_cases web <;> decide

/-- Behind `http` and the like a server stands behind all slashes. -/
theorem readAfterScheme_of_web (web : isWebScheme scheme = true) (s : List Char) :
    readAfterScheme scheme s = readAfterSlashes scheme (s.dropWhile (isSlash true)) := by
  obtain ⟨special, noFile⟩ := isSpecial_of_web web
  unfold readAfterScheme
  rw [if_neg (by simp [noFile]), if_pos special]

/-- An address of the web names a server, and its path is divided. -/
theorem server_of_parse {text : String} (h : parse text = .ok url)
    (web : isWebScheme url.scheme = true) :
    ∃ server rest, IsServer url.scheme server ∧ url = withRest url.scheme server rest := by
  unfold parse at h
  split at h
  · rename_i scheme s _
    obtain rfl := scheme_of_readAfterScheme h
    rw [readAfterScheme_of_web web] at h
    obtain ⟨server, ended, text, rest, read, whole⟩ := server_of_readAfterSlashes h
    exact ⟨server, rest, isServer_of_readServer (isSpecial_of_web web).1 read, whole⟩
  · cases h

/-! ### Reading the text of an endpoint -/

/-- A text of visible characters counts as a whole. -/
theorem clean_of_visible (h : ∀ c ∈ s, 0x20 < c.toNat) : clean s = s := by
  have inner : ∀ c ∈ s, decide (c.toNat ≤ 0x20) = false := by
    intro c there
    have := h c there
    simpa using this
  have kept : s.filter (fun c => c != '\t' && c != '\n' && c != '\r') = s := by
    rw [List.filter_eq_self]
    intro c there
    have visible := h c there
    simp only [Bool.and_eq_true, bne_iff_ne]
    refine ⟨⟨?_, ?_⟩, ?_⟩ <;>
    · rintro rfl
      exact absurd visible (by decide)
  unfold clean
  dsimp only
  rw [Text.dropWhile_of_forall inner, Text.dropEndWhile_of_forall inner, kept]

theorem splitScheme?_of_web (web : isWebScheme scheme = true) (rest : List Char) :
    splitScheme? (scheme ++ ':' :: rest) = some (scheme, rest) := by
  obtain rfl | rfl := web_cases web <;> rfl

variable {server : Server}

/-- The text of the address that expressions are sent to, given the server. -/
theorem chars_toEndpoint (h : IsServer scheme server) (rest : List Char) :
    (withRest scheme server rest).toEndpoint.chars =
      scheme ++ ':' :: '/' :: '/' :: (server.chars ++ endpointPath.toList) := by
  obtain ⟨host, named, -⟩ := h.host
  have sited : (withRest scheme server rest).toEndpoint.host = some host := named
  have text : (withRest scheme server rest).toEndpoint.hostText = server.hostText := rfl
  have path : (withRest scheme server rest).toEndpoint.path.text = endpointPath.toList := rfl
  have noQuery : marked '?' (withRest scheme server rest).toEndpoint.query = [] := rfl
  have noFragment : marked '#' (withRest scheme server rest).toEndpoint.fragment = [] := rfl
  have who : (withRest scheme server rest).toEndpoint.userinfo = server.userinfo := rfl
  have behind : (withRest scheme server rest).toEndpoint.scheme = scheme := rfl
  rw [chars, sited, text, path, noQuery, noFragment, who, behind]
  simp [Server.chars]

/-- A server starts with no slash. -/
theorem dropWhile_slashes (h : IsServer scheme server) (rest : List Char) :
    (server.chars ++ rest).dropWhile (isSlash true) = server.chars ++ rest := by
  obtain ⟨host, named, read⟩ := h.host
  have nonempty : server.chars ≠ [] := by
    rw [Server.chars, Server.hostText, named]
    simp [read.text_ne_nil]
  obtain ⟨c, others, starts⟩ := List.exists_cons_of_ne_nil nonempty
  have inside : endsServer true c = false := by
    refine h.not_endsServer_chars c ?_
    rw [starts]
    exact List.mem_cons_self
  have noSlash : isSlash true c = false := by
    simp only [endsServer, Bool.or_eq_false_iff] at inside
    exact inside.1.1
  rw [starts, List.cons_append, List.dropWhile_cons_of_neg (by simp [noSlash])]

/-- The text behind the scheme of an endpoint is read as this endpoint. -/
theorem readAfterScheme_chars (web : isWebScheme scheme = true) (h : IsServer scheme server)
    (rest : List Char) :
    readAfterScheme scheme ('/' :: '/' :: (server.chars ++ endpointPath.toList)) =
      .ok (withRest scheme server rest).toEndpoint := by
  have special : isSpecial scheme = true := (isSpecial_of_web web).1
  have slashes : ('/' :: '/' :: (server.chars ++ endpointPath.toList)).dropWhile (isSlash true) =
      server.chars ++ endpointPath.toList := dropWhile_slashes h _
  have text : serverText (isSpecial scheme) (server.chars ++ endpointPath.toList) =
      server.chars := by
    rw [special]
    exact h.serverText_chars _
  have read : readServer scheme (!endpointPath.toList.isEmpty) server.chars = .ok server :=
    h.readServer_chars special _
  rw [readAfterScheme_of_web web, slashes]
  unfold readAfterSlashes
  rw [text]
  dsimp only
  rw [List.drop_left, read]
  show Except.ok (withRest scheme server endpointPath.toList) = _
  rw [withRest_endpointPath]
  rfl

/-- Nothing but visible ASCII is written. -/
theorem visible_chars (web : isWebScheme scheme = true) (h : IsServer scheme server) :
    ∀ c ∈ scheme ++ ':' :: '/' :: '/' :: (server.chars ++ endpointPath.toList),
      0x20 < c.toNat ∧ c.toNat ≤ 0x7E := by
  have marks : ∀ c ∈ ':' :: '/' :: '/' :: endpointPath.toList,
      0x20 < c.toNat ∧ c.toNat ≤ 0x7E := by simp [endpointPath]
  have inScheme : ∀ c ∈ scheme, 0x20 < c.toNat ∧ c.toNat ≤ 0x7E := by
    obtain rfl | rfl := web_cases web <;> simp
  have inServer : ∀ c ∈ server.chars, 0x20 < c.toNat ∧ c.toNat ≤ 0x7E := by
    intro c there
    obtain rfl | inner := h.mem_chars c there
    · decide
    · simp only [Host.isBoundary, Bool.or_eq_false_iff, decide_eq_false_iff_not] at inner
      omega
  intro c there
  simp only [List.mem_append, List.mem_cons] at there marks
  obtain there | rfl | rfl | rfl | there | there := there
  · exact inScheme c there
  · decide
  · decide
  · decide
  · exact inServer c there
  · exact marks c (.inr (.inr (.inr there)))

/-- The text of the endpoint of an address of the web is read as this endpoint. -/
theorem parse_text_toEndpoint {given : String} (h : parse given = .ok url)
    (web : isWebScheme url.scheme = true) :
    parse (Text.trim url.toEndpoint.text) = .ok url.toEndpoint := by
  obtain ⟨server, rest, named, whole⟩ := server_of_parse h web
  have written : url.toEndpoint.chars =
      url.scheme ++ ':' :: '/' :: '/' :: (server.chars ++ endpointPath.toList) := by
    rw [whole]
    exact chars_toEndpoint named rest
  have visible := visible_chars web named
  rw [← written] at visible
  have trimmed : Text.trim url.toEndpoint.text = url.toEndpoint.text :=
    Text.trim_of_visible visible
  rw [trimmed, parse, text, String.toList_ofList,
    clean_of_visible fun c there => (visible c there).1, written, splitScheme?_of_web web]
  dsimp only
  rw [readAfterScheme_chars web named rest, ← whole]

end EvalConsole.Url
