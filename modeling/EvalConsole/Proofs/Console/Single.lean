/-
A single expression, and a session that holds one line.

With an expression among its arguments the program has no session: the expression is sent off as
it stands, whatever command it may look like, and the program ends when the outcome is shown. A
session whose input is that one line sends and shows the same.

* `Console.ShowsOne`: one expression has been sent, and two texts have been shown for it.
* `Console.run_single`: a single expression heeds its answer only; `Console.showsOne_begun` is its
  end, and `Console.files_run` says that its settings stay as they are.
* `Console.Fresh.showsOne`: a session that is asked one expression.
* `Program.single_agrees_with_session` compares the two.
-/
import EvalConsole.Proofs.Console.Accounts
import EvalConsole.Proofs.Console.Lines
import EvalConsole.Proofs.Settings.Reading

namespace EvalConsole

-- What a line or a server comes to is never looked into here.
attribute [local irreducible] dispatch endpoint

namespace Console

variable {c : Console} {events : List Event} {network : Network} {errand : Errand}
  {outcome : Outcome}

/-- One network answers: it gives an answer that the first task ends with, no answer comes from
another one, and nothing interrupts. -/
structure AnsweredBy (c : Console) (network : Network) (events : List Event) : Prop where
  comes : c.IsAnswered events 0
  only : ∀ number other, .answer number other ∈ events → other = network
  uninterrupted : .interrupt ∉ events

/-- The end after one expression: it has been sent once, and the display has received that it is
running and then its outcome. -/
structure ShowsOne (c : Console) (errand : Errand) (outcome : Outcome) : Prop where
  ended : c.phase = .ended
  sent : Effect.sent c.effects = [errand]
  shown : Effect.shown c.effects = [runningText, outcome.render]

/-! ### Single expressions -/

theorem run_ended (h : c.phase = .ended) (events : List Event) : c.run events = c := by
  have step (event : Event) : c.step event = c := by
    unfold Console.step
    rw [h]
  induction events with
  | nil => rfl
  | cons event rest ih =>
    rw [run, List.foldl_cons, step]
    exact ih

/-- A single expression ends with its answer. -/
theorem receive_single (hsingle : c.phase = .single) (htasks : c.tasks = [⟨errand, none⟩])
    (hout : (errand.evaluator.evaluate network errand.expression).outcome = some outcome) :
    c.receive 0 network = { c.complete 0 errand
        (errand.evaluator.evaluate network errand.expression).notices outcome with
      phase := .ended } := by
  rw [receive, htasks]
  dsimp only [List.getElem?_cons_zero]
  rw [hout]
  dsimp only
  rw [finish, if_neg]
  simp [isWaiting, isPending, complete, perform, hsingle, htasks]

/-- Until then nothing happens, and afterwards neither. -/
theorem run_single (hsingle : c.phase = .single) (htasks : c.tasks = [⟨errand, none⟩])
    (hended : (c.receive 0 network).phase = .ended)
    (honly : ∀ number other, .answer number other ∈ events → other = network)
    (hcomes : .answer 0 network ∈ events) : c.run events = c.receive 0 network := by
  have hne : c.phase ≠ .ended := by
    rw [hsingle]
    nofun
  induction events with
  | nil => cases hcomes
  | cons event rest ih =>
    show (c.step event).run rest = _
    by_cases hfirst : event = .answer 0 network
    · rw [hfirst, step_answer hne]
      exact run_ended hended rest
    · have hsame : c.step event = c := by
        cases event with
        | answer number other =>
          obtain rfl := honly number other List.mem_cons_self
          have hnumber : number ≠ 0 := by
            rintro rfl
            exact hfirst rfl
          -- there is no task but the first
          obtain ⟨before, rfl⟩ := Nat.exists_eq_succ_of_ne_zero hnumber
          rw [step_answer hne, receive, htasks]
          rfl
        | line _ | badLine _ | endOfInput | interrupt =>
          unfold Console.step
          rw [hsingle]
      rw [hsame]
      exact ih (fun number other hmem => honly number other (List.mem_cons_of_mem _ hmem))
        ((List.mem_cons.mp hcomes).resolve_left (Ne.symm hfirst))

/-- Settings change with lines only. -/
theorem files_run (h : c.phase ≠ .reading) (events : List Event) :
    (c.run events).files = c.files := by
  refine (run_induction (P := fun d => d.phase ≠ .reading ∧ d.files = c.files) ?_ ⟨h, rfl⟩).2
  rintro d last event - ⟨hd, hfiles⟩ hmove
  cases hmove with
  | nothing _ => exact ⟨hd, hfiles⟩
  | line hr _ => exact absurd hr hd
  | close hr _ _ => exact absurd hr hd
  | complete _ _ _ _ _ =>
    exact ⟨fun hr => hd ((phase_finish_iff (complete ..)).mp hr), (frame_finish _).1.trans hfiles⟩
  | abandon _ => exact ⟨nofun, hfiles⟩

/-! ### What is written -/

theorem stdout_display (text : String) : Effect.stdout [.display text] = text ++ "\n" := by
  simp [Effect.stdout, Effect.printed, Terminal.setText, Terminal.empty]

theorem stdout_map_note (notices : List Notice) :
    Effect.stdout (notices.map Effect.note) = "" := by
  induction notices with
  | nil => rfl
  | cons notice rest ih => exact ih

theorem stdout_submit (c : Console) (expression : String) :
    Effect.stdout (c.submit expression).effects =
      Effect.stdout c.effects ++ (runningText ++ "\n") := by
  show Effect.stdout (c.effects ++ ([.display runningText] ++ [.send _, .note _])) = _
  rw [Effect.stdout_append, Effect.stdout_append, stdout_display]
  exact congrArg _ String.append_empty

theorem stdout_complete (c : Console) (number : Nat) (errand : Errand) (notices : List Notice)
    (outcome : Outcome) : Effect.stdout (c.complete number errand notices outcome).effects =
      Effect.stdout c.effects ++ (outcome.render ++ "\n") := by
  rw [complete, perform, Effect.stdout_append, Effect.stdout_append, stdout_map_note,
    String.empty_append, stdout_display]

/-- A single expression waits for one answer only. -/
theorem answeredBy_begun (session : Session) {evaluator : Evaluator} (files : Files) {e : String}
    (hout : (evaluator.evaluate network e).outcome.isSome) :
    (Program.begun session evaluator files (some e)).AnsweredBy network [.answer 0 network] where
  comes := ⟨[], network, [], _, rfl, rfl, hout⟩
  only number other hmem := by
    cases List.mem_singleton.mp hmem
    rfl
  uninterrupted := by simp

/-- The end of a single expression. Its two texts are all that is written. -/
theorem showsOne_begun {session : Session} {evaluator : Evaluator} {files : Files} {e : String}
    (hc : c = Program.begun session evaluator files (some e)) (hby : c.AnsweredBy network events)
    (hout : (evaluator.evaluate network e).outcome = some outcome) :
    (c.run events).ShowsOne ⟨evaluator, e⟩ outcome ∧
      Effect.stdout (c.run events).effects =
        runningText ++ "\n" ++ outcome.render ++ "\n" := by
  obtain ⟨hsingle, htasks, hsent, hshown, hwritten⟩ :
      c.phase = .single ∧ c.tasks = [⟨⟨evaluator, e⟩, none⟩] ∧
        Effect.sent c.effects = [⟨evaluator, e⟩] ∧ Effect.shown c.effects = [runningText] ∧
        Effect.stdout c.effects = runningText ++ "\n" := by
    rw [hc]
    exact ⟨rfl, rfl, rfl, rfl, (stdout_submit _ e).trans String.empty_append⟩
  have hcomes : .answer 0 network ∈ events := by
    obtain ⟨before, other, after, task, rfl, -, -⟩ := hby.comes
    obtain rfl := hby.only 0 other (by simp)
    simp
  have hend := receive_single hsingle htasks hout
  rw [run_single hsingle htasks (congrArg phase hend) hby.only hcomes, hend]
  have hledger := c.ledger_complete 0 ⟨evaluator, e⟩ (evaluator.evaluate network e).notices outcome
  refine ⟨⟨rfl, ?_, ?_⟩, ?_⟩
  · exact (congrArg Ledger.sent hledger).trans hsent
  · exact (congrArg Ledger.shown hledger).trans (congrArg (· ++ [outcome.render]) hshown)
  · refine (c.stdout_complete 0 ⟨evaluator, e⟩ _ outcome).trans ?_
    rw [hwritten, ← String.append_assoc]

/-! ### Sessions with one expression -/

variable {timeout : Option Nat} {evaluator : Evaluator} {line server : String}

/-- A session that is asked one expression ends with it when it is answered. -/
theorem Fresh.showsOne (h : Fresh timeout c) (hof : Evaluator.of server timeout = .ok evaluator)
    (hasked : ((Transcript.opened c.session c.files).after events).asked = [(line, server)])
    (hclosed : ((Transcript.opened c.session c.files).after events).closed = true)
    (hby : c.AnsweredBy network events)
    (hout : (evaluator.evaluate network line).outcome = some outcome) :
    (c.run events).ShowsOne ⟨evaluator, line⟩ outcome := by
  have hfollows := h.follows events
  have hheld : Held (c.run events) := h.held.run hby.uninterrupted
  -- there is one task, and it has ended with the outcome
  obtain ⟨ended, htasks⟩ : ∃ ended, (c.run events).tasks = [⟨⟨evaluator, line⟩, ended⟩] := by
    have horders := hfollows.asked
    rw [hasked, List.map_singleton, orderFor, hof, List.map_eq_singleton_iff] at horders
    obtain ⟨⟨⟨other, expression⟩, ended⟩, htasks, horder⟩ := horders
    cases horder
    exact ⟨ended, htasks⟩
  obtain rfl : ended = some outcome := by
    obtain ⟨task, htask, hsome⟩ := h.held.exists_outcome hby.uninterrupted hby.comes
    rw [htasks] at htask
    cases htask
    obtain ⟨other, rfl⟩ := Option.isSome_iff_exists.mp hsome
    have hanswered : Answered events (c.run events).tasks := Answered.run h.tasks
    rw [htasks] at hanswered
    obtain ⟨answering, hmem, hother⟩ := hanswered 0 _ other rfl rfl
    rw [hby.only 0 answering hmem] at hother
    exact hother.symm.trans hout
  have hbooked := h.booked events
  refine ⟨hheld.phase_eq_ended (fun hr => ?_) fun number hlt => ?_, ?_, ?_⟩
  · cases hclosed.symm.trans (hfollows.reading.mp hr)
  · rw [htasks] at hlt ⊢
    obtain rfl : number = 0 := Nat.lt_one_iff.mp hlt
    exact ⟨_, rfl, rfl⟩
  · rw [hbooked.sent, htasks]
    rfl
  · have hshown := hbooked.shown
    have hfirst : (Effect.shown (c.run events).effects).head? =
        (c.run events).tasks.head?.map fun _ => runningText := h.firstRunning events
    rw [htasks] at hshown hfirst
    -- the texts are those of the task, and the first of them is that it is running
    obtain ⟨rest, hrest⟩ := List.head?_eq_some_iff.mp hfirst
    rw [hrest] at hshown ⊢
    exact congrArg (List.cons runningText) (List.perm_singleton.mp hshown.cons_inv)

end Console

/-! ### The two compared -/

theorem Evaluator.exists_outcome_offline (evaluator : Evaluator) (e : String) :
    ∃ outcome, (evaluator.evaluate .offline e).outcome = some outcome := by
  have hfetch : ∃ failure, (Network.offline.fetch evaluator.timeout (evaluator.request e)).result =
      some (.error failure) := by
    rw [Network.fetch]
    split
    · rw [Network.maxRedirects, Network.follow]
      exact ⟨_, rfl⟩
    · exact ⟨_, rfl⟩
  obtain ⟨failure, hresult⟩ := hfetch
  rw [evaluate]
  dsimp only
  rw [hresult]
  exact ⟨_, rfl⟩

/-- A start without settings, with an expression among its arguments. -/
def Surroundings.asking (e : String) : Surroundings :=
  { Surroundings.plain with arguments := Surroundings.plain.arguments ++ ["--run=" ++ e] }

namespace Program

variable {s : Surroundings} {a : Arguments} {e : String} {c : Console}

theorem readSetting_currentServer {database server : String} {explicit? : Option String}
    {files opened : Files} (h : currentServer database explicit? files = (.ok server, opened))
    (key : String) : readSetting database key opened = readSetting database key files := by
  rw [currentServer] at h
  cases hopen : Store.openAt database files with
  | mk result last =>
    rw [hopen] at h
    cases result with
    | error cause => cases h
    | ok store =>
      obtain rfl : last = opened := congrArg Prod.snd h
      exact readSetting_opened hopen key

/-- **A single expression agrees with a session, and is never a command.** A start with an
expression among its arguments that gets past its settings writes that the expression is running
and then its outcome, whatever the expression looks like and whatever the outcome is; it ends with
a status of success, and the value of no key has changed. A session with the same options whose
only line is the expression, and no command, sends and shows the same. -/
theorem single_agrees_with_session (hparse : Arguments.parse s.server s.arguments = .ok a)
    (hrun : a.run = some e) (hs : start s = .console c) :
    let database := a.database.getD (defaultDatabasePath s.home)
    (start s).exitStatus = 0 ∧
    (∀ events key,
      readSetting database key (c.run events).files = readSetting database key s.files) ∧
    ∃ server evaluator,
      (currentServer database a.server s.files).1 = .ok server ∧
      Evaluator.of server (a.timeout.map (1000 * ·)) = .ok evaluator ∧
      ∀ network outcome, (evaluator.evaluate network e).outcome = some outcome →
        (∀ events, c.AnsweredBy network events →
          (c.run events).ShowsOne ⟨evaluator, e⟩ outcome ∧
          Effect.stdout (c.run events).effects =
            runningText ++ "\n" ++ outcome.render ++ "\n") ∧
        ∀ arguments, Arguments.parse s.server arguments = .ok { a with run := none } →
          ∃ d, start { s with arguments } = .console d ∧
            ((dispatch e d.session d.files).1.request = .expression →
              '\n' ∉ e.toList → '\r' ∉ e.toList →
              ∀ ending events, Input.IsEnd e ending →
                events.filter (fun event => !event.isAnswer) =
                  Input.events (Utf8.encode (e ++ ending).toList) →
                d.AnsweredBy network events →
                (d.run events).ShowsOne ⟨evaluator, e⟩ outcome) := by
  intro database
  obtain ⟨hcommand, server, evaluator, opened, hcurrent, hof, hc⟩ := exists_of_start hparse hs
  rw [hrun] at hc
  refine ⟨by rw [hs]; rfl, fun events key => ?_, server, evaluator, congrArg Prod.fst hcurrent, hof,
    fun network outcome hout => ⟨fun events hby => ?_, fun arguments hparse' => ?_⟩⟩
  · rw [Console.files_run (by rw [hc]; nofun) events, hc]
    exact readSetting_currentServer hcurrent key
  · exact Console.showsOne_begun hc hby hout
  · obtain ⟨d, hd⟩ : ∃ d, d = begun ⟨server, database⟩ evaluator opened none := ⟨_, rfl⟩
    have hstart : start { s with arguments } = .console d := by
      rw [hd]
      exact start_of_server (s := { s with arguments }) hparse' hcommand hcurrent hof
    refine ⟨d, hstart, fun hexpression hfeed hcarriage ending events hending hevents hby => ?_⟩
    have hfresh : Console.Fresh (a.timeout.map (1000 * ·)) d := by
      rw [hd]
      exact Console.fresh_begun opened hof
    -- answers apart, what happens is that the line is read and the input ends
    have hread := Transcript.after_line d.session d.files hexpression
    rw [← Input.events_of_line hfeed hcarriage hending, ← hevents, Transcript.after_filter] at hread
    refine hfresh.showsOne ?_ hread.1 hread.2 hby hout
    rw [hd]
    exact hof

/-- A name that is a command behind a slash only: as a single expression both are sent. -/
theorem single_agrees_with_session_quit :
    (∃ c evaluator outcome, start (.asking "/quit") = .console c ∧
      (evaluator.evaluate .offline "/quit").outcome = some outcome ∧
      (c.run [.answer 0 .offline]).ShowsOne ⟨evaluator, "/quit"⟩ outcome ∧
      Effect.stdout (c.run [.answer 0 .offline]).effects =
        runningText ++ "\n" ++ outcome.render ++ "\n") ∧
    ∃ c d evaluator outcome, start (.asking "quit") = .console c ∧ start .plain = .console d ∧
      (evaluator.evaluate .offline "quit").outcome = some outcome ∧
      (c.run [.answer 0 .offline]).ShowsOne ⟨evaluator, "quit"⟩ outcome ∧
      (d.run [.line "quit", .answer 0 .offline, .endOfInput]).ShowsOne ⟨evaluator, "quit"⟩
        outcome := by
  have hopens : opens .plain fun d =>
      (dispatch "quit" d.session d.files).1.request == .expression &&
        (d.run [.line "quit"]).tasks[0]?.any fun task =>
          (task.errand.evaluator.evaluate .offline task.errand.expression).outcome.isSome := by
    decide +kernel
  obtain ⟨d, hd, -, htest⟩ := exists_of_opens hopens
  rw [Bool.and_eq_true, beq_iff_eq, Option.any_eq_true] at htest
  obtain ⟨hexpression, task, htask, hanswer⟩ := htest
  have hplain : Arguments.parse none Surroundings.plain.arguments =
      .ok ⟨none, some "http://a.example", none, none, none⟩ := by
    decide +kernel
  have hquit : Arguments.parse none (Surroundings.asking "quit").arguments =
      .ok ⟨none, some "http://a.example", none, none, some "quit"⟩ := by
    decide +kernel
  have hslash : Arguments.parse none (Surroundings.asking "/quit").arguments =
      .ok ⟨none, some "http://a.example", none, none, some "/quit"⟩ := by
    decide +kernel
  -- all three starts come to the same server
  obtain ⟨-, server, evaluator, opened, hcurrent, hof, -⟩ := exists_of_start hplain hd
  have hanswers (e : String) : (evaluator.evaluate .offline e).outcome.isSome :=
    Option.isSome_iff_exists.mpr (evaluator.exists_outcome_offline e)
  constructor
  · have hs := start_of_server (s := .asking "/quit") hslash rfl hcurrent hof
    obtain ⟨-, -, _, evaluator, -, -, hboth⟩ := single_agrees_with_session hslash rfl hs
    obtain ⟨outcome, hout⟩ := evaluator.exists_outcome_offline "/quit"
    exact ⟨_, evaluator, outcome, hs, hout,
      (hboth _ _ hout).1 _ (Console.answeredBy_begun _ _ (hanswers "/quit"))⟩
  · have hs := start_of_server (s := .asking "quit") hquit rfl hcurrent hof
    obtain ⟨-, -, _, evaluator, -, -, hboth⟩ := single_agrees_with_session hquit rfl hs
    obtain ⟨outcome, hout⟩ := evaluator.exists_outcome_offline "quit"
    obtain ⟨hsingle, hsession⟩ := hboth _ _ hout
    obtain ⟨other, hother, hshows⟩ := hsession _ hplain
    obtain rfl : d = other := Start.console.inj (hd.symm.trans hother)
    obtain ⟨hshows', -⟩ := hsingle _ (Console.answeredBy_begun _ _ (hanswers "quit"))
    refine ⟨_, d, evaluator, outcome, hs, hd, hout, hshows', ?_⟩
    have hending : Input.IsEnd "quit" "\n" := .inl rfl
    refine hshows hexpression (by decide) (by decide) _ _ hending
      (Input.events_of_line (by decide) (by decide) hending).symm ?_
    exact ⟨⟨[.line "quit"], .offline, [.endOfInput], task, rfl, htask, hanswer⟩, by simp, by simp⟩

end Program

end EvalConsole
