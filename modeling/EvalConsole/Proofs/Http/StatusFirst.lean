/-
The status of a response decides before its body is looked at.

What an expression ends in depends on the final response, which is the first one that leads
nowhere. Its status is the outcome by itself unless it is one of success; only then the body
counts, and how it came.

Main statements:

* `Evaluator.evaluate_of_arrives`: the final response decides on the outcome.
* `HttpLibrary.direction_congr`: where a response leads does not depend on a body.
* `Evaluator.status_before_body`: the outcome for each final response, and without one.
-/
import EvalConsole.Proofs.Http.SingleCall

namespace EvalConsole

namespace Network

variable {library : HttpLibrary} {timeout : Option Nat} {request last : HttpRequest}
  {before : List Answer} {answer other : Answer} {final found : HttpResponse}

/-- A response with another body arrives where a final response does. -/
theorem Arrives.congr (h : Arrives library timeout request before last answer final)
    (answered : other.inTheEnd = .response found) (status : found.status = final.status)
    (location : found.location = final.location) :
    Arrives library timeout request before last other found :=
  ⟨h.toReaches, answered, (HttpLibrary.direction_congr status location).trans h.taken⟩

end Network

namespace Evaluator

open Network

variable {e : Evaluator} {library : HttpLibrary} {expr : String} {before : List Answer}
  {last : HttpRequest} {answer : Answer} {final : HttpResponse}

theorem isSuccess_iff {status : UInt16} :
    isSuccess status = true ↔ 200 ≤ status.toNat ∧ status.toNat ≤ 299 := by
  rw [isSuccess, Bool.and_eq_true, decide_eq_true_eq, decide_eq_true_eq, UInt16.le_iff_toNat_le,
    UInt16.lt_iff_toNat_lt]
  exact and_congr_right fun _ => Nat.lt_succ_iff

/-- The connection ends before the body of a response does. -/
def EndsEarly (response : HttpResponse) : Prop :=
  hasNoBody response.status = false ∧ response.truncated = true

theorem outcomeOf_of_endsEarly (library : HttpLibrary) (url : Url)
    (success : isSuccess final.status = true) (early : EndsEarly final) :
    outcomeOf library url final = .error (.transport (library.describe url .truncated)) := by
  rw [outcomeOf, if_pos success, if_pos (by simp [early.1, early.2])]

theorem outcomeOf_of_not_endsEarly (library : HttpLibrary) (url : Url)
    (success : isSuccess final.status = true) (whole : ¬ EndsEarly final) :
    outcomeOf library url final = Reply.parse (bodyText library final) := by
  rw [outcomeOf, if_pos success, if_neg]
  rw [Bool.and_eq_true, Bool.not_eq_true']
  exact whole

theorem parse_ne_status (body : String) (code : UInt16) :
    Reply.parse body ≠ .error (.status code) := by
  rw [Reply.parse]
  split
  · rintro ⟨⟩
  · rintro ⟨⟩

/-- A response ends in a status if its own is no success, and in no other one. -/
theorem outcomeOf_eq_status_iff {url : Url} {code : UInt16} :
    outcomeOf library url final = .error (.status code) ↔
      code = final.status ∧ ¬ isSuccess final.status = true := by
  by_cases success : isSuccess final.status = true
  · refine iff_of_false ?_ fun h => h.2 success
    by_cases early : EndsEarly final
    · rw [outcomeOf_of_endsEarly library url success early]
      rintro ⟨⟩
    · rw [outcomeOf_of_not_endsEarly library url success early]
      exact parse_ne_status _ _
  · rw [outcomeOf_of_not_isSuccess library url (by simpa using success), Except.error.injEq,
      FetchError.status.injEq, eq_comm, and_iff_left success]

theorem evaluate_of_arrives
    (h : Arrives library e.timeout (e.request expr) before last answer final)
    (rest : List Answer) :
    (e.evaluate (answering library before answer rest) expr).outcome =
      some (outcomeOf library last.url final) :=
  evaluate_of_ok (h.fetch rest)

theorem evaluate_of_waits (h : Waits library e.timeout (e.request expr) before last answer)
    (rest : List Answer) :
    (e.evaluate (answering library before answer rest) expr).outcome = none := by
  unfold evaluate
  simp [h.fetch rest]

/-- An expression ends as a failure of transport if no final response arrives, unless a server is
waited for without limit. -/
theorem evaluate_without_final {network : Network}
    (missing : ∀ library before last answer final rest,
      network = answering library before answer rest →
        ¬ Arrives library e.timeout (e.request expr) before last answer final) :
    (∃ message, (e.evaluate network expr).outcome = some (.error (.transport message))) ∨
      ∃ library before last answer rest, network = answering library before answer rest ∧
        Waits library e.timeout (e.request expr) before last answer := by
  rcases fetch_ends network e.timeout (e.request expr) with
    ⟨failure, failed⟩ | ⟨library, before, last, answer, final, rest, same, arrives⟩ | waits
  · exact .inl ⟨_, evaluate_of_error failed⟩
  · exact absurd arrives (missing library before last answer final rest same)
  · exact .inr waits

/-- Where an expression has no outcome ever, its last request is never answered. -/
theorem evaluate_eq_none_iff {network : Network} :
    (e.evaluate network expr).outcome = none ↔
      ∃ library before last answer rest, network = answering library before answer rest ∧
        Waits library e.timeout (e.request expr) before last answer := by
  constructor
  · intro endless
    rcases fetch_ends network e.timeout (e.request expr) with
      ⟨failure, failed⟩ | ⟨library, before, last, answer, final, rest, rfl, arrives⟩ | waits
    · cases endless.symm.trans (evaluate_of_error failed)
    · cases endless.symm.trans (evaluate_of_arrives arrives rest)
    · exact waits
  · rintro ⟨library, before, last, answer, rest, rfl, waits⟩
    exact evaluate_of_waits waits rest

/-- The status of the final response counts before anything in its body, whatever servers do, on
whatever host, and whatever library sends the requests. Where a final response arrives, behind any
redirections and interim responses, the outcome is a status if the status of the response is no
success, and then it is this status, whatever the body is, its charset and mark, how it comes and
whether it ends early. Otherwise the outcome is the reply that the decoded body denotes, or a
failure of transport if the body ends early. Where no final response arrives, the outcome is a
failure of transport, and there is none only while a server is waited for without limit. -/
theorem status_before_body (e : Evaluator) (expr : String) :
    (∀ library before last answer final rest,
      Arrives library e.timeout (e.request expr) before last answer final →
      let outcome := (e.evaluate (answering library before answer rest) expr).outcome
      let success := 200 ≤ final.status.toNat ∧ final.status.toNat ≤ 299
      (∀ code, outcome = some (.error (.status code)) ↔ code = final.status ∧ ¬ success) ∧
      (¬ success → ∀ (other : Answer) (found : HttpResponse) (others : List Answer),
        other.inTheEnd = .response found → found.status = final.status →
        found.location = final.location →
          (e.evaluate (answering library before other others) expr).outcome = outcome) ∧
      (success → EndsEarly final → ∃ message, outcome = some (.error (.transport message))) ∧
      (success → ¬ EndsEarly final → outcome = some (Reply.parse (bodyText library final)))) ∧
    (∀ network, (∀ library before last answer final rest,
        network = answering library before answer rest →
          ¬ Arrives library e.timeout (e.request expr) before last answer final) →
      (∃ message, (e.evaluate network expr).outcome = some (.error (.transport message))) ∨
      (e.evaluate network expr).outcome = none) ∧
    ∀ network, (e.evaluate network expr).outcome = none ↔
      ∃ library before last answer rest, network = answering library before answer rest ∧
        Waits library e.timeout (e.request expr) before last answer := by
  refine ⟨fun library before last answer final rest arrives => ?_, fun network missing => ?_,
    fun network => evaluate_eq_none_iff⟩
  · intro outcome success
    have ended : outcome = some (outcomeOf library last.url final) := evaluate_of_arrives arrives rest
    have success_iff : isSuccess final.status = true ↔ success := isSuccess_iff
    refine ⟨fun code => ?_, fun failure other found others answered status location => ?_,
      fun good early => ?_, fun good whole => ?_⟩
    · rw [ended, Option.some_inj, outcomeOf_eq_status_iff, success_iff]
    · -- both responses are final, and both end in the one status
      have failed : ¬ isSuccess final.status = true := mt success_iff.mp failure
      have found_failed : ¬ isSuccess found.status = true := by rwa [status]
      rw [ended, evaluate_of_arrives (arrives.congr answered status location) others,
        outcomeOf_eq_status_iff.mpr ⟨rfl, failed⟩,
        outcomeOf_eq_status_iff.mpr ⟨rfl, found_failed⟩, status]
    · rw [ended, outcomeOf_of_endsEarly _ _ (success_iff.mpr good) early]
      exact ⟨_, rfl⟩
    · rw [ended, outcomeOf_of_not_endsEarly _ _ (success_iff.mpr good) whole]
  · exact (evaluate_without_final missing).imp_right evaluate_eq_none_iff.mpr

/-- The endpoint of a calculator behind `https`. -/
def secureCalculator : Url :=
  { calculator with scheme := "https".toList }

/-- The request that the calculator is asked instead when it names another page. -/
def askedElsewhere : HttpRequest :=
  ⟨.get, { secureCalculator with path := .segments ["other".toList] }, none, none, ""⟩

/-- A response that says that nothing is found. -/
def notFound : HttpResponse :=
  { elsewhere none with status := 404, isFinal := by decide }

/-- Behind a redirection and an interim response nothing is found, once with no body and once with a
mark, half a character and an early end. -/
theorem status_before_body_elsewhere :
    let e : Evaluator := ⟨secureCalculator, none⟩
    let garbled : HttpResponse :=
      { notFound with
        contentType := some "text/plain; charset=utf-16"
        body := [0xFE, 0xFF, 0x00]
        chunked := true
        truncated := true }
    let outcome (answer : Answer) : Option Outcome := (e.evaluate
      (answering .plain [.response (elsewhere (some "/other"))] answer []) "x").outcome
    Evaluator.of "https://calc.test" none = .ok e ∧
    Arrives .plain e.timeout (e.request "x") [.response (elsewhere (some "/other"))] askedElsewhere
      (.interim (.response notFound)) notFound ∧
    outcome (.interim (.response notFound)) = some (.error (.status 404)) ∧
    outcome (.response garbled) = some (.error (.status 404)) := by
  intro e garbled outcome
  have accepted : Evaluator.of "https://calc.test" none = .ok e := by decide +kernel
  have arrives : Arrives .plain e.timeout (e.request "x")
      [.response (elsewhere (some "/other"))] askedElsewhere
      (.interim (.response notFound)) notFound :=
    { sendable := rfl
      timely := nofun
      leads := .on rfl (by decide +kernel) (by decide) (.here askedElsewhere)
      few := by decide
      answered := rfl
      taken := by decide +kernel }
  obtain ⟨status, same, -, -⟩ := (status_before_body e "x").1 _ _ _ _ _ [] arrives
  have first : outcome (.interim (.response notFound)) = some (.error (.status 404)) :=
    (status 404).mpr ⟨rfl, by decide⟩
  have other := same (by decide) (.response garbled) garbled [] rfl rfl rfl
  exact ⟨accepted, arrives, first, other.trans first⟩

end Evaluator

end EvalConsole
