/-
Redirections.

A response may lead elsewhere: it has one of five statuses, and names a location that the library
can follow. Then another request takes the place of the first one, if the location is on the web;
otherwise there is no response. The last request of such a run is answered by a response that is
taken as it is, or by none.

Main statements:

* `Answer.inTheEnd` is what an answer comes to behind interim responses.
* `HttpLibrary.redirects_iff`: which responses lead elsewhere.
* `Network.follow_of_response`: what becomes of a request that is answered by a response.
* `Network.fetch_ends`: how a request with its redirections ends.
* `Network.Arrives.fetch`, `Network.Waits.fetch`: which end the answers of servers give it.
* `Network.length_seen_fetch_le`: how many requests are made at most.
-/
import EvalConsole.Proofs.Http.Submission

namespace EvalConsole

/-- What is left behind interim responses. -/
def Answer.inTheEnd : Answer → Answer
  | interim next => next.inTheEnd
  | unreachable causes => unreachable causes
  | response r => response r
  | close => close
  | garbage => garbage
  | silence => silence

/-! ### Where responses lead -/

namespace HttpLibrary

variable {library : HttpLibrary} {request : HttpRequest} {response other : HttpResponse}

/-- A response redirects a request: its status is one of five, and it names a location that the
library can follow. -/
def Redirects (library : HttpLibrary) (request : HttpRequest) (response : HttpResponse) : Prop :=
  response.status ∈ ([301, 302, 303, 307, 308] : List UInt16) ∧
    ∃ location, response.location = some location ∧
      library.locate request.url.withoutUser location ≠ .nowhere

theorem asks_iff {status : UInt16} :
    (asksForGet status || asksForRepetition status) = true ↔
      status ∈ ([301, 302, 303, 307, 308] : List UInt16) := by
  simp only [asksForGet, asksForRepetition, List.contains_eq_mem, Bool.or_eq_true,
    decide_eq_true_eq, List.mem_cons, List.not_mem_nil, or_false]
  tauto

theorem redirects_iff :
    library.Redirects request response ↔ library.direction request response ≠ .nowhere := by
  unfold Redirects direction
  rw [← asks_iff]
  by_cases asks : (asksForGet response.status || asksForRepetition response.status) = true
  · rw [if_pos asks]
    cases response.location <;> simp [asks]
  · rw [if_neg asks]
    exact iff_of_false (fun h => asks h.1) fun h => h rfl

/-- Where a response leads depends on its status and its location. -/
theorem direction_congr (status : other.status = response.status)
    (location : other.location = response.location) :
    library.direction request other = library.direction request response := by
  unfold direction
  rw [status, location]

theorem isSuccess_of_redirects (h : library.Redirects request response) :
    isSuccess response.status = false := by
  have all : ∀ status ∈ ([301, 302, 303, 307, 308] : List UInt16), isSuccess status = false := by
    simp [isSuccess]
  exact all _ h.1

end HttpLibrary

namespace Network

variable {network : Network} {timeout : Option Nat} {left : Nat} {request last : HttpRequest}
  {library : HttpLibrary} {before rest : List Answer} {answer : Answer} {response : HttpResponse}

/-! ### One request -/

/-- A request is sent at all: its address can be sent, and there is time for it. -/
structure IsSent (timeout : Option Nat) (request : HttpRequest) : Prop where
  sendable : request.url.isSendable = true
  timely : timeout ≠ some 0

theorem receive_inTheEnd (timeout : Option Nat) (answer : Answer) :
    receive timeout answer.inTheEnd = receive timeout answer := by
  induction answer with
  | interim next ih => exact ih
  | unreachable causes => rfl
  | response response => rfl
  | close => rfl
  | garbage => rfl
  | silence => rfl

/-- An answer comes to an error, to a response, or to nothing ever. -/
theorem receive_cases (timeout : Option Nat) (answer : Answer) :
    (∃ e, receive timeout answer = some (.error e)) ∨
      (∃ response, answer.inTheEnd = .response response) ∨
      answer.inTheEnd = .silence ∧ timeout = none := by
  induction answer with
  | interim next ih => exact ih
  | unreachable causes => exact .inl ⟨_, rfl⟩
  | response response => exact .inr (.inl ⟨response, rfl⟩)
  | close => exact .inl ⟨_, rfl⟩
  | garbage => exact .inl ⟨_, rfl⟩
  | silence =>
    cases timeout with
    | none => exact .inr (.inr ⟨rfl, rfl⟩)
    | some limit => exact .inl ⟨_, rfl⟩

theorem isSeen_of_response (answered : answer.inTheEnd = .response response) :
    answer.isSeen = true := by
  cases answer with
  | unreachable causes => cases answered
  | _ => rfl

theorem send_online (timely : timeout ≠ some 0) (answer : Answer) (rest : List Answer)
    (library : HttpLibrary) :
    (online (answer :: rest) library).send timeout request =
      ⟨if answer.isSeen then [request.seen] else [], receive timeout answer,
        online rest library⟩ := by
  unfold send
  dsimp only
  rw [if_neg timely]

/-- A request comes to an error, unless it finds an answer that is a response or silence. -/
theorem send_ends (network : Network) (timeout : Option Nat) (request : HttpRequest) :
    (∃ e, (network.send timeout request).result = some (.error e)) ∨
      timeout ≠ some 0 ∧ ∃ answer rest library, network = online (answer :: rest) library ∧
        ((∃ response, answer.inTheEnd = .response response) ∨
          answer.inTheEnd = .silence ∧ timeout = none) := by
  cases network with
  | offline => exact .inl ⟨_, rfl⟩
  | online answers library =>
    by_cases late : timeout = some 0
    · refine .inl ⟨.timedOut, ?_⟩
      unfold send
      dsimp only
      rw [if_pos late]
    · cases answers with
      | nil =>
        refine .inl ⟨.closed, ?_⟩
        unfold send
        dsimp only
        rw [if_neg late]
      | cons answer rest =>
        rcases receive_cases timeout answer with ⟨e, failed⟩ | ended
        · exact .inl ⟨e, by rw [send_online late, failed]⟩
        · exact .inr ⟨late, answer, rest, library, rfl, ended⟩

/-- No request is seen more than once. -/
theorem length_seen_send_le (network : Network) (timeout : Option Nat) (request : HttpRequest) :
    (network.send timeout request).seen.length ≤ 1 := by
  obtain ⟨nothing, -⟩ | seen := send_cases network timeout request
  · rw [nothing]
    exact Nat.zero_le 1
  · rw [seen]
    exact Nat.le_refl 1

/-! ### One step -/

theorem follow_of_error {e : TransportError}
    (h : (network.send timeout request).result = some (.error e)) :
    (network.follow timeout left request).result = some (.error e) := by
  unfold follow
  simp [h]

theorem follow_of_silence (silent : answer.inTheEnd = .silence) :
    ((online (answer :: rest) library).follow none left request).result = none := by
  have received : receive none answer = none := by
    rw [← receive_inTheEnd, silent]
    rfl
  unfold follow
  simp [send_online, received]

/-- What becomes of a request that is answered by a response: the response is taken as it is if it
leads nowhere, and followed if it leads elsewhere on the web. -/
theorem follow_of_response (timely : timeout ≠ some 0)
    (answered : answer.inTheEnd = .response response) (left : Nat) (rest : List Answer) :
    (online (answer :: rest) library).follow timeout left request =
      match library.direction request response, left with
      | .nowhere, _ => ⟨[request.seen], some (.ok (request.url, response)), online rest library⟩
      | .invalid cause, _ => ⟨[request.seen], some (.error (.badLocation cause)), online rest library⟩
      | .elsewhere _, 0 =>
        ⟨[request.seen], some (.error (.tooManyRedirects request.url)), online rest library⟩
      | .elsewhere url, left + 1 =>
        if isWebScheme url.scheme then
          let others := (online rest library).follow timeout left
            (request.redirected response.status url)
          { others with seen := request.seen :: others.seen }
        else ⟨[request.seen], some (.error (.foreignScheme url)), online rest library⟩ := by
  have received : receive timeout answer = some (.ok response) := by
    rw [← receive_inTheEnd, answered]
    rfl
  rw [follow.eq_def]
  simp only [send_online timely, received, isSeen_of_response answered, if_true]
  rfl

section Answered

variable (timely : timeout ≠ some 0) (answered : answer.inTheEnd = .response response)

include timely answered

theorem follow_of_nowhere (taken : library.direction request response = .nowhere) (left : Nat)
    (rest : List Answer) :
    (online (answer :: rest) library).follow timeout left request =
      ⟨[request.seen], some (.ok (request.url, response)), online rest library⟩ := by
  rw [follow_of_response timely answered, taken]

theorem follow_of_web {url : Url} (toward : library.direction request response = .elsewhere url)
    (web : isWebScheme url.scheme = true) (left : Nat) (rest : List Answer) :
    let others := (online rest library).follow timeout left
      (request.redirected response.status url)
    (online (answer :: rest) library).follow timeout (left + 1) request =
      { others with seen := request.seen :: others.seen } := by
  rw [follow_of_response timely answered, toward]
  dsimp only
  rw [if_pos web]

/-- A response that leads elsewhere is followed on the web, or there is an error. -/
theorem follow_cases_of_redirects (redirects : library.Redirects request response) (left : Nat)
    (rest : List Answer) :
    (∃ e, ((online (answer :: rest) library).follow timeout left request).result =
        some (.error e)) ∨
      ∃ less url, left = less + 1 ∧ library.direction request response = .elsewhere url ∧
        isWebScheme url.scheme = true := by
  rw [follow_of_response timely answered]
  cases toward : library.direction request response with
  | nowhere => exact absurd toward (HttpLibrary.redirects_iff.mp redirects)
  | invalid cause => exact .inl ⟨_, rfl⟩
  | elsewhere url =>
    cases left with
    | zero => exact .inl ⟨_, rfl⟩
    | succ less =>
      by_cases web : isWebScheme url.scheme = true
      · exact .inr ⟨less, url, rfl, rfl, web⟩
      · exact .inl ⟨.foreignScheme url, by simp [web]⟩

end Answered

/-! ### Runs of redirections -/

/-- Answers that lead from one request to another: each is a response that leads elsewhere on the
web, where the next request is sent. -/
inductive Leads (library : HttpLibrary) : HttpRequest → List Answer → HttpRequest → Prop where
  | here (request : HttpRequest) : Leads library request [] request
  | on {request last : HttpRequest} {answer : Answer} {others : List Answer}
      {response : HttpResponse} {url : Url} (answered : answer.inTheEnd = .response response)
      (toward : library.direction request response = .elsewhere url)
      (web : isWebScheme url.scheme = true)
      (h : Leads library (request.redirected response.status url) others last) :
      Leads library request (answer :: others) last

/-- Answers lead from a request that is sent to a last one, within the limit. -/
structure Reaches (library : HttpLibrary) (timeout : Option Nat) (request : HttpRequest)
    (before : List Answer) (last : HttpRequest) : Prop extends IsSent timeout request where
  leads : Leads library request before last
  few : before.length ≤ maxRedirects

/-- A final response arrives: it answers the last request, and leads nowhere. -/
structure Arrives (library : HttpLibrary) (timeout : Option Nat) (request : HttpRequest)
    (before : List Answer) (last : HttpRequest) (answer : Answer) (final : HttpResponse) : Prop
    extends Reaches library timeout request before last where
  answered : answer.inTheEnd = .response final
  taken : library.direction last final = .nowhere

/-- The last request is waited for: it is never answered, and there is no limit. -/
structure Waits (library : HttpLibrary) (timeout : Option Nat) (request : HttpRequest)
    (before : List Answer) (last : HttpRequest) (answer : Answer) : Prop
    extends Reaches library timeout request before last where
  silent : answer.inTheEnd = .silence
  endless : timeout = none

/-- The network in which some answers come before another one. -/
def answering (library : HttpLibrary) (before : List Answer) (answer : Answer)
    (rest : List Answer) : Network :=
  online (before ++ answer :: rest) library

/-- What becomes of a request is what becomes of the last one of a run of redirections. -/
theorem Leads.follow (h : Leads library request before last) (timely : timeout ≠ some 0)
    (answer : Answer) (rest : List Answer) (left : Nat) (few : before.length ≤ left) :
    ((answering library before answer rest).follow timeout left request).result =
      ((online (answer :: rest) library).follow timeout (left - before.length) last).result := by
  induction h generalizing left with
  | here request => rfl
  | @on request last first others response url answered toward web h ih =>
    obtain ⟨left, rfl⟩ : ∃ less, left = less + 1 := Nat.exists_eq_succ_of_ne_zero (by grind)
    rw [List.length_cons, Nat.succ_sub_succ]
    have step := follow_of_web timely answered toward web left (others ++ answer :: rest)
    exact (congrArg Exchange.result step).trans (ih left (Nat.le_of_succ_le_succ few))

theorem fetch_of_sendable (sendable : request.url.isSendable = true) :
    network.fetch timeout request = network.follow timeout maxRedirects request := by
  rw [fetch, if_pos sendable]

/-- A final response that arrives is what a request comes to. -/
theorem Arrives.fetch {final : HttpResponse}
    (h : Arrives library timeout request before last answer final) (rest : List Answer) :
    ((answering library before answer rest).fetch timeout request).result =
      some (.ok (last.url, final)) := by
  rw [fetch_of_sendable h.sendable, h.leads.follow h.timely _ _ _ h.few,
    follow_of_nowhere h.timely h.answered h.taken]

/-- A server that never answers is waited for. -/
theorem Waits.fetch (h : Waits library timeout request before last answer) (rest : List Answer) :
    ((answering library before answer rest).fetch timeout request).result = none := by
  rw [fetch_of_sendable h.sendable, h.leads.follow h.timely _ _ _ h.few, h.endless,
    follow_of_silence h.silent]

/-- How a request with at most `left` redirections ends: in an error, in a response that is taken
as it is, or in silence. -/
theorem follow_ends (timeout : Option Nat) (left : Nat) (network : Network)
    (request : HttpRequest) :
    (∃ e, (network.follow timeout left request).result = some (.error e)) ∨
      timeout ≠ some 0 ∧ ∃ library before last answer rest,
        network = answering library before answer rest ∧ Leads library request before last ∧
        before.length ≤ left ∧
        ((∃ final, answer.inTheEnd = .response final ∧ library.direction last final = .nowhere) ∨
          answer.inTheEnd = .silence ∧ timeout = none) := by
  induction left using Nat.strongRecOn generalizing network request with
  | ind left ih =>
    obtain ⟨e, failed⟩ | ⟨timely, answer, rest, library, rfl, ended⟩ :=
      send_ends network timeout request
    · exact .inl ⟨e, follow_of_error failed⟩
    rcases ended with ⟨response, answered⟩ | silent
    · by_cases redirects : library.Redirects request response
      · obtain failed | ⟨less, url, rfl, toward, web⟩ :=
          follow_cases_of_redirects timely answered redirects left rest
        · exact .inl failed
        · -- the rest of the run is that of the next request
          rw [follow_of_web timely answered toward web]
          rcases ih less (Nat.lt_succ_self less) (online rest library)
              (request.redirected response.status url) with
            failed | ⟨-, library', before, last, final, others, same, leads, few, ended⟩
          · exact .inl failed
          · obtain ⟨rfl, rfl⟩ := online.inj same
            exact .inr ⟨timely, library, answer :: before, last, final, others, rfl,
              .on answered toward web leads, Nat.succ_le_succ few, ended⟩
      · have taken : library.direction request response = .nowhere :=
          not_not.mp (mt HttpLibrary.redirects_iff.mpr redirects)
        exact .inr ⟨timely, library, [], request, answer, rest, rfl, .here request, Nat.zero_le _,
          .inl ⟨response, answered, taken⟩⟩
    · exact .inr ⟨timely, library, [], request, answer, rest, rfl, .here request, Nat.zero_le _,
        .inr silent⟩

/-- How a request ends: in an error, in a final response that arrives, or in silence. -/
theorem fetch_ends (network : Network) (timeout : Option Nat) (request : HttpRequest) :
    (∃ e, (network.fetch timeout request).result = some (.error e)) ∨
      (∃ library before last answer final rest, network = answering library before answer rest ∧
        Arrives library timeout request before last answer final) ∨
      ∃ library before last answer rest, network = answering library before answer rest ∧
        Waits library timeout request before last answer := by
  by_cases sendable : request.url.isSendable = true
  · rw [fetch_of_sendable sendable]
    obtain failed | ⟨timely, library, before, last, answer, rest, same, leads, few, ended⟩ :=
      follow_ends timeout maxRedirects network request
    · exact .inl failed
    have reaches : Reaches library timeout request before last := ⟨⟨sendable, timely⟩, leads, few⟩
    rcases ended with ⟨final, answered, taken⟩ | ⟨silent, endless⟩
    · exact .inr (.inl ⟨library, before, last, answer, final, rest, same, reaches, answered, taken⟩)
    · exact .inr (.inr ⟨library, before, last, answer, rest, same, reaches, silent, endless⟩)
  · exact .inl ⟨.badAddress, by rw [fetch, if_neg sendable]⟩

/-! ### How many requests are made -/

/-- A request that is not answered by a response is not followed by another one. -/
theorem seen_follow_of_no_response
    (h : ∀ response, (network.send timeout request).result ≠ some (.ok response)) :
    (network.follow timeout left request).seen = (network.send timeout request).seen := by
  unfold follow
  dsimp only
  split
  · rfl
  · rfl
  · rename_i response answered
    exact absurd answered (h response)

/-- Each redirection makes one more request. -/
theorem length_seen_follow_le (timeout : Option Nat) (left : Nat) (network : Network)
    (request : HttpRequest) : (network.follow timeout left request).seen.length ≤ left + 1 := by
  induction left using Nat.strongRecOn generalizing network request with
  | ind left ih =>
    have first := length_seen_send_le network timeout request
    have one : (network.send timeout request).seen.length ≤ left + 1 :=
      first.trans (Nat.le_add_left 1 left)
    rw [follow.eq_def]
    dsimp only
    split
    · exact one
    · exact one
    · split
      · exact one
      · exact one
      · exact one
      · split
        · rename_i response _ _ _ url less _ _
          have others := ih less (Nat.lt_succ_self less) (network.send timeout request).network
            (request.redirected response.status url)
          rw [List.length_append]
          omega
        · exact one

theorem length_seen_fetch_le (network : Network) (timeout : Option Nat) (request : HttpRequest) :
    (network.fetch timeout request).seen.length ≤ maxRedirects + 1 := by
  rw [fetch]
  split
  · exact length_seen_follow_le ..
  · exact Nat.zero_le _

end Network

end EvalConsole
