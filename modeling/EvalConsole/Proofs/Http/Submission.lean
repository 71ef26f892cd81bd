/-
What reaches a server.

The body of a submission is JSON for one object with one member, and reading it gives the
expression back, whatever characters it has. The first request that a server sees is the one that
was made, as it was made: what follows it are redirections.

Main statements:

* `parse_expressionBody`, `expressionBody_injective`: the body carries the expression.
* `Network.follow_cases`: what is seen first of a request with its redirections.
* `Evaluator.first_request_carries`: the first request for an expression.
-/
import EvalConsole.Evaluator
import EvalConsole.Proofs.Console.Lockstep
import EvalConsole.Proofs.Json.ReadBack
import EvalConsole.Proofs.Url.Joining

namespace EvalConsole

namespace Json

/-! ### Written texts -/

/-- What is written for an object that holds nothing but a text denotes it. -/
theorem denotes_chars_single (name text : String) :
    Denotes (object [(name, .string text)]).chars (.object [(name, .string text)]) := by
  have fits : Fits maxDepth (.object [(name, .string text)]) := by
    refine .object (by simp) fun member there => ?_
    obtain rfl := List.mem_singleton.mp there
    exact .string text
  have integral : Integral (.object [(name, .string text)]) := by
    refine .object fun member there => ?_
    obtain rfl := List.mem_singleton.mp there
    exact .string text
  have denotes := fits.denotes_compact integral
  rwa [← chars_foldIntegral] at denotes

end Json

/-! ### The body -/

theorem parse_expressionBody (expr : String) :
    Json.parse (expressionBody expr) = .ok (.object [("expr", .string expr)]) := by
  rw [Json.parse_eq_ok_iff, expressionBody, Json.write, String.toList_ofList]
  exact Json.denotes_chars_single "expr" expr

theorem expressionBody_injective : Function.Injective expressionBody := by
  intro expr other same
  have h := parse_expressionBody expr
  rw [same, parse_expressionBody other] at h
  cases h
  rfl

/-! ### What is seen of a request -/

namespace Network

variable {network : Network} {timeout : Option Nat} {request : HttpRequest}

/-- A request is seen as it was made, or it fails on its way. -/
theorem send_cases (network : Network) (timeout : Option Nat) (request : HttpRequest) :
    ((network.send timeout request).seen = [] ∧
      ∃ e, (network.send timeout request).result = some (.error e)) ∨
      (network.send timeout request).seen = [request.seen] := by
  cases network with
  | offline => exact .inl ⟨rfl, _, rfl⟩
  | online answers library =>
    unfold send
    dsimp only
    split
    · exact .inl ⟨rfl, _, rfl⟩
    · cases answers with
      | nil => exact .inr rfl
      | cons answer rest =>
        cases answer with
        | unreachable causes => exact .inl ⟨rfl, _, rfl⟩
        | interim next => exact .inr rfl
        | response response => exact .inr rfl
        | close => exact .inr rfl
        | garbage => exact .inr rfl
        | silence => exact .inr rfl

/-- A request with its redirections is seen first as it was made, or it fails on its way: a
redirection comes only behind a response. -/
theorem follow_cases (left : Nat) :
    ((network.follow timeout left request).seen = [] ∧
      ∃ e, (network.follow timeout left request).result = some (.error e)) ∨
      ∃ later, (network.follow timeout left request).seen = request.seen :: later := by
  obtain ⟨nothing, e, failed⟩ | seen := send_cases network timeout request
  · exact .inl (by simp [follow, failed, nothing])
  · refine .inr ?_
    unfold follow
    dsimp only
    split
    · exact ⟨[], seen⟩
    · exact ⟨[], seen⟩
    · split
      · exact ⟨[], seen⟩
      · exact ⟨[], seen⟩
      · exact ⟨[], seen⟩
      · split
        · exact ⟨_, by rw [seen, List.singleton_append]⟩
        · exact ⟨[], seen⟩

end Network

/-! ### The request for an expression -/

namespace Evaluator

theorem evaluate_seen (e : Evaluator) (network : Network) (expr : String) :
    (e.evaluate network expr).seen = (network.fetch e.timeout (e.request expr)).seen := by
  unfold evaluate
  dsimp only
  split <;> rfl

theorem evaluate_of_error {e : Evaluator} {network : Network} {expr : String}
    {failure : TransportError}
    (h : (network.fetch e.timeout (e.request expr)).result = some (.error failure)) :
    (e.evaluate network expr).outcome =
      some (.error (.transport (network.library.describe e.endpoint failure))) := by
  unfold evaluate
  simp [h]

/-- Of an expression either the first request is seen as it was made, or nothing is and the
expression ends as a failure of transport. -/
theorem evaluate_cases (e : Evaluator) (network : Network) (expr : String) :
    ((e.evaluate network expr).seen = [] ∧
      ∃ message, (e.evaluate network expr).outcome = some (.error (.transport message))) ∨
      ∃ later, (e.evaluate network expr).seen = (e.request expr).seen :: later := by
  have fetched : ((network.fetch e.timeout (e.request expr)).seen = [] ∧
      ∃ failure, (network.fetch e.timeout (e.request expr)).result = some (.error failure)) ∨
      ∃ later, (network.fetch e.timeout (e.request expr)).seen = (e.request expr).seen :: later := by
    rw [Network.fetch]
    split
    · exact Network.follow_cases Network.maxRedirects
    · exact .inl ⟨rfl, _, rfl⟩
  rw [evaluate_seen]
  exact fetched.imp_left (And.imp_right fun ⟨_, failed⟩ => ⟨_, evaluate_of_error failed⟩)

/-- A server text that has an endpoint, be it behind `http` or `https`, has an evaluator. Whatever
becomes of requests, the first one that servers see for an expression, if they see any, is a `POST`
to the endpoint without its user, and its body is JSON for an object that holds the expression
under `expr` and nothing else. If they see none, the expression ends as a failure of transport.
Different expressions have different bodies. -/
theorem first_request_carries {server : String} {url : Url}
    (accepted : EvalConsole.endpoint server = .ok url) (timeout : Option Nat) :
    ∃ e, Evaluator.of server timeout = .ok e ∧
      (∀ (network : Network) (expr : String) (first : SeenRequest),
        (e.evaluate network expr).seen.head? = some first →
          first.method = "POST" ∧
          first.target = url.withoutUser.text ∧
          first.contentType = some "application/json" ∧
          first.body = (e.request expr).body ∧
          Json.parse first.body = .ok (.object [("expr", .string expr)])) ∧
      (∀ (network : Network) (expr : String), (e.evaluate network expr).seen = [] →
        ∃ message, (e.evaluate network expr).outcome = some (.error (.transport message))) ∧
      Function.Injective fun expr => (e.request expr).body := by
  obtain ⟨base, segments, -, -, -, rfl⟩ := endpoint_eq_ok_iff.mp accepted
  have sends := evaluate_cases ⟨base.toEndpoint, timeout⟩
  refine ⟨⟨base.toEndpoint, timeout⟩, of_eq_ok_iff.mpr ⟨accepted, rfl⟩, ?_, ?_,
    expressionBody_injective⟩
  · intro network expr first h
    obtain ⟨nothing, -⟩ | ⟨later, seen⟩ := sends network expr
    · rw [nothing] at h
      cases h
    · rw [seen, List.head?_cons] at h
      obtain rfl := Option.some.inj h
      exact ⟨rfl, rfl, rfl, rfl, parse_expressionBody expr⟩
  · intro network expr nothing
    obtain ⟨-, failed⟩ | ⟨later, seen⟩ := sends network expr
    · exact failed
    · cases nothing.symm.trans seen

/-- A server with a user, a port and a page on it. -/
def pageOfAnn : Url :=
  ⟨"http".toList, ⟨"ann".toList, "pw".toList⟩, some (.name "a.example".toList), some 8080,
    .segments ["page".toList], some "q".toList, none⟩

/-- The server ends the connection; the expression has quotes, a backslash, controls and a
character beyond the first plane. -/
theorem first_request_carries_escapes :
    ∃ e first, Evaluator.of " http://ann:pw@a.example:8080/page?q " none = .ok e ∧
      (e.evaluate (.online []) "\"\\\n\x00\x1f😀").seen.head? = some first ∧
      first.target = "http://a.example:8080/api/expr" ∧
      Json.parse first.body = .ok (.object [("expr", .string "\"\\\n\x00\x1f😀")]) := by
  have accepted : EvalConsole.endpoint " http://ann:pw@a.example:8080/page?q " =
      .ok pageOfAnn.toEndpoint := by
    decide +kernel
  obtain ⟨e, he, carried, -⟩ := first_request_carries accepted none
  obtain rfl : e = ⟨pageOfAnn.toEndpoint, none⟩ := by
    obtain ⟨endpoint, timeout⟩ := of_eq_ok_iff.mp he
    cases e
    cases accepted.symm.trans endpoint
    cases timeout
    rfl
  have sent : (evaluate ⟨pageOfAnn.toEndpoint, none⟩ (.online []) "\"\\\n\x00\x1f😀").seen.head? =
      some (request ⟨pageOfAnn.toEndpoint, none⟩ "\"\\\n\x00\x1f😀").seen := by
    decide +kernel
  obtain ⟨-, target, -, -, body⟩ := carried _ _ _ sent
  exact ⟨_, _, he, sent, target.trans (by decide +kernel), body⟩

end Evaluator

end EvalConsole
