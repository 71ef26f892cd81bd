/-
How many calls an expression makes.

An expression is meant to be one call: a request, and a response whose status is the outcome if it
is no success. It is one unless the response leads elsewhere, for then the status is lost: the
response is followed, or there is none.

Main statements:

* `Evaluator.single_call_iff`: an expression makes a single call exactly if it is not redirected.
* `Evaluator.redirected_makes_two_calls`: a redirection that is followed to a result.
-/
import EvalConsole.Proofs.Http.Redirection

namespace EvalConsole

/-- A response answers the next request, perhaps behind interim ones. -/
def Network.Responds (network : Network) (response : HttpResponse) : Prop :=
  ∃ answer rest library, network = online (answer :: rest) library ∧
    answer.inTheEnd = .response response

namespace Evaluator

open Network

variable {e : Evaluator} {network : Network} {library : HttpLibrary} {expr : String}
  {answer : Answer} {rest : List Answer} {response : HttpResponse}

theorem evaluate_of_ok {url : Url}
    (h : (network.fetch e.timeout (e.request expr)).result = some (.ok (url, response))) :
    (e.evaluate network expr).outcome = some (outcomeOf network.library url response) := by
  unfold evaluate
  simp [h]

theorem outcomeOf_of_not_isSuccess (library : HttpLibrary) (url : Url)
    (h : isSuccess response.status = false) :
    outcomeOf library url response = .error (.status response.status) := by
  rw [outcomeOf, if_neg (by simp [h])]

/-- What a single call is: at most one request is seen, it is the `POST` of the expression to the
endpoint, and a status of the response to it that is no success is the outcome. -/
structure SingleCall (e : Evaluator) (network : Network) (expr : String) : Prop where
  once : (e.evaluate network expr).seen.length ≤ 1
  posted : ∀ seen ∈ (e.evaluate network expr).seen,
    seen.method = "POST" ∧ seen.target = e.endpoint.withoutUser.text ∧
      Json.parse seen.body = .ok (.object [("expr", .string expr)])
  status : ∀ response, network.Responds response → IsSent e.timeout (e.request expr) →
    isSuccess response.status = false →
      (e.evaluate network expr).outcome = some (.error (.status response.status))

/-- What is seen of an expression before any redirection is the `POST` of it to the endpoint. -/
theorem seen_request {server : String} {timeout : Option Nat} (expr : String)
    (accepted : Evaluator.of server timeout = .ok e) :
    (e.request expr).seen.method = "POST" ∧
      (e.request expr).seen.target = e.endpoint.withoutUser.text ∧
      Json.parse (e.request expr).seen.body = .ok (.object [("expr", .string expr)]) := by
  obtain ⟨base, segments, -, -, -, endpoint⟩ :=
    endpoint_eq_ok_iff.mp (of_eq_ok_iff.mp accepted).1
  have whole : e.endpoint.withoutUser.withoutFragment = e.endpoint.withoutUser := by
    rw [← endpoint]
    rfl
  refine ⟨rfl, ?_, parse_expressionBody expr⟩
  rw [HttpRequest.seen]
  exact congrArg Url.text whole

/-- An expression ends as a failure of transport if it is redirected and no second request is
seen. -/
theorem transport_of_redirects (sent : IsSent e.timeout (e.request expr))
    (answered : answer.inTheEnd = .response response)
    (redirects : library.Redirects (e.request expr) response)
    (once : (e.evaluate (online (answer :: rest) library) expr).seen.length ≤ 1) :
    ∃ message, (e.evaluate (online (answer :: rest) library) expr).outcome =
      some (.error (.transport message)) := by
  have failed : ∃ failure, ((online (answer :: rest) library).fetch e.timeout
      (e.request expr)).result = some (.error failure) := by
    rw [evaluate_seen] at once
    rw [fetch_of_sendable sent.sendable] at once ⊢
    obtain failed | ⟨less, url, limit, toward, web⟩ :=
      follow_cases_of_redirects sent.timely answered redirects maxRedirects rest
    · exact failed
    · rw [limit, follow_of_web sent.timely answered toward web] at once ⊢
      -- the second request has failed on its way, since it is not seen
      obtain ⟨-, failed⟩ | ⟨later, seen⟩ := @follow_cases (online rest library) e.timeout
        ((e.request expr).redirected response.status url) less
      · exact failed
      · dsimp only at once
        rw [seen] at once
        simp at once
  obtain ⟨failure, failed⟩ := failed
  exact ⟨_, evaluate_of_error failed⟩

/-- A redirected expression does not make a single call. -/
theorem not_singleCall_of_redirects (responds : network.Responds response)
    (sent : IsSent e.timeout (e.request expr))
    (redirects : network.library.Redirects (e.request expr) response) :
    ¬ SingleCall e network expr := by
  intro single
  have status := single.status response responds sent (HttpLibrary.isSuccess_of_redirects redirects)
  obtain ⟨answer, rest, library, rfl, answered⟩ := responds
  obtain ⟨message, failed⟩ := transport_of_redirects sent answered redirects single.once
  cases status.symm.trans failed

/-- An expression that is not redirected is seen once at most, as it was made. -/
theorem seen_of_not_redirected
    (direct : ∀ response, network.Responds response → IsSent e.timeout (e.request expr) →
      ¬ network.library.Redirects (e.request expr) response) :
    (e.evaluate network expr).seen = [] ∨ (e.evaluate network expr).seen = [(e.request expr).seen] := by
  rw [evaluate_seen]
  by_cases sendable : (e.request expr).url.isSendable = true
  · rw [fetch_of_sendable sendable]
    have alone := send_cases network e.timeout (e.request expr)
    obtain ⟨failure, failed⟩ | ⟨timely, answer, rest, library, rfl, ⟨response, answered⟩ | silent⟩ :=
      send_ends network e.timeout (e.request expr)
    · rw [seen_follow_of_no_response (by simp [failed])]
      exact alone.imp_left And.left
    · have taken : library.direction (e.request expr) response = .nowhere :=
        not_not.mp (mt HttpLibrary.redirects_iff.mpr
          (direct response ⟨answer, rest, library, rfl, answered⟩ ⟨sendable, timely⟩))
      rw [follow_of_nowhere timely answered taken]
      exact .inr rfl
    · have received : receive e.timeout answer = none := by
        rw [← receive_inTheEnd, silent.1, silent.2]
        rfl
      rw [seen_follow_of_no_response (by simp [send_online timely, received])]
      exact alone.imp_left And.left
  · rw [fetch, if_neg sendable]
    exact .inl rfl

/-- An expression that is not redirected makes a single call. -/
theorem singleCall_of_not_redirected {server : String} {timeout : Option Nat}
    (accepted : Evaluator.of server timeout = .ok e)
    (direct : ∀ response, network.Responds response → IsSent e.timeout (e.request expr) →
      ¬ network.library.Redirects (e.request expr) response) :
    SingleCall e network expr := by
  have seen := seen_of_not_redirected direct
  refine ⟨?_, fun other there => ?_, fun response responds sent failure => ?_⟩
  · rcases seen with nothing | once
    · rw [nothing]
      exact Nat.zero_le 1
    · rw [once]
      exact Nat.le_refl 1
  · rcases seen with nothing | once
    · rw [nothing] at there
      cases there
    · rw [once] at there
      obtain rfl := List.mem_singleton.mp there
      exact seen_request expr accepted
  · have stays := direct response responds sent
    obtain ⟨answer, rest, library, rfl, answered⟩ := responds
    have taken : library.direction (e.request expr) response = .nowhere :=
      not_not.mp (mt HttpLibrary.redirects_iff.mpr stays)
    have fetched := follow_of_nowhere sent.timely answered taken maxRedirects rest
    rw [← fetch_of_sendable sent.sendable] at fetched
    rw [evaluate_of_ok (congrArg Exchange.result fetched), outcomeOf_of_not_isSuccess _ _ failure]

/-- An expression makes a single call exactly if the response to its request does not redirect it,
whatever servers do and whatever library sends the requests. With its redirections it makes eleven
requests at most. -/
theorem single_call_iff {server : String} {timeout : Option Nat}
    (accepted : Evaluator.of server timeout = .ok e) (network : Network) (expr : String) :
    (SingleCall e network expr ↔ ∀ response, network.Responds response →
      IsSent e.timeout (e.request expr) →
        ¬ network.library.Redirects (e.request expr) response) ∧
    (e.evaluate network expr).seen.length ≤ 11 := by
  refine ⟨⟨fun single response responds sent redirects =>
    not_singleCall_of_redirects responds sent redirects single,
    singleCall_of_not_redirected accepted⟩, ?_⟩
  rw [evaluate_seen]
  exact length_seen_fetch_le ..

/-- The endpoint of a calculator. -/
def calculator : Url :=
  ⟨"http".toList, .anonymous, some (.name "calc.test".toList), none,
    .segments ["api".toList, "expr".toList], none, none⟩

/-- A response that says that the answer is elsewhere, or not where. -/
def elsewhere (location : Option String) : HttpResponse :=
  { status := 302, contentType := none, location, body := [], chunked := false, truncated := false }

theorem of_calculator : Evaluator.of "http://calc.test" none = .ok ⟨calculator, none⟩ := by
  decide +kernel

/-- A status that asks for a location without naming one redirects nothing, also behind an interim
response. -/
theorem single_call_without_location :
    SingleCall ⟨calculator, none⟩ (online [.interim (.response (elsewhere none))]) "x" := by
  refine (single_call_iff of_calculator _ "x").1.mpr ?_
  rintro response ⟨answer, rest, library, same, answered⟩ - ⟨-, location, located, -⟩
  obtain ⟨⟨rfl, rfl⟩, rfl⟩ := online.inj same
  cases answered
  cases located

/-- A redirection is followed by a second request, a `GET` of another address, and the result from
there is the outcome, not the status of the first response. -/
theorem redirected_makes_two_calls :
    let found : HttpResponse :=
      { elsewhere none with
        status := 200
        body := Utf8.encode "\x7b\"result\":\"42\"\x7d".toList
        isFinal := by decide }
    let network : Network := online [.response (elsewhere (some "/other")), .response found]
    let run := evaluate ⟨calculator, none⟩ network "x"
    Evaluator.of "http://calc.test" none = .ok ⟨calculator, none⟩ ∧
      isSuccess (elsewhere (some "/other")).status = false ∧
      run.seen.map (fun seen => (seen.method, seen.target)) =
        [("POST", "http://calc.test/api/expr"), ("GET", "http://calc.test/other")] ∧
      run.outcome = some (.ok (.result "42")) ∧ ¬ SingleCall ⟨calculator, none⟩ network "x" := by
  intro found network run
  have requests : run.seen.map (fun seen => (seen.method, seen.target)) =
      [("POST", "http://calc.test/api/expr"), ("GET", "http://calc.test/other")] := by
    decide +kernel
  refine ⟨of_calculator, rfl, requests, by decide +kernel, fun single => ?_⟩
  have once : (run.seen.map fun seen => (seen.method, seen.target)).length ≤ 1 := by
    rw [List.length_map]
    exact single.once
  rw [requests] at once
  exact absurd once (by decide)

end Evaluator

end EvalConsole
