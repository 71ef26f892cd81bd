/-
What a start comes to.

* `Program.begun` is what there is at first: a single expression on its way, or a session that
  waits for its first line. An expression among the arguments decides which of the two it is, and
  nothing else.
* `Program.start_eq_console_iff` and `Program.startConsole_eq_console_iff` say when a start gets
  that far.
-/
import EvalConsole.Program

namespace EvalConsole.Program

-- What a server comes to is never looked into here.
attribute [local irreducible] endpoint

variable {s : Surroundings} {a : Arguments} {c : Console} {database server : String}
  {evaluator : Evaluator} {files opened : Files}

/-! ### Getting past the settings -/

/-- What there is at first, given the expression among the arguments. -/
def begun (session : Session) (evaluator : Evaluator) (files : Files) : Option String → Console
  | some expression => Console.submit ⟨.single, session, evaluator, files, [], [], []⟩ expression
  | none => Console.ask ⟨.reading, session, evaluator, files, [], [],
      [.print (banner session evaluator).printed]⟩

theorem session_begun (session : Session) (evaluator : Evaluator) (files : Files)
    (run? : Option String) : (begun session evaluator files run?).session = session := by
  cases run? <;> rfl

theorem startConsole_of_server
    (hcurrent : currentServer database a.server files = (.ok server, opened))
    (hof : Evaluator.of server (a.timeout.map (1000 * ·)) = .ok evaluator) :
    startConsole a database files = .console (begun ⟨server, database⟩ evaluator opened a.run) := by
  rw [startConsole, hcurrent]
  dsimp only
  rw [hof]
  cases a.run <;> rfl

/-- The server in effect is found, and it is one that expressions can be sent to. -/
theorem startConsole_eq_console_iff : startConsole a database files = .console c ↔
    ∃ server evaluator opened, currentServer database a.server files = (.ok server, opened) ∧
      Evaluator.of server (a.timeout.map (1000 * ·)) = .ok evaluator ∧
      c = begun ⟨server, database⟩ evaluator opened a.run := by
  constructor
  · intro h
    cases hcurrent : currentServer database a.server files with
    | mk found opened =>
      cases found with
      | error cause =>
        rw [startConsole, hcurrent] at h
        cases h
      | ok server =>
        cases hof : Evaluator.of server (a.timeout.map (1000 * ·)) with
        | error cause =>
          rw [startConsole, hcurrent] at h
          dsimp only at h
          rw [hof] at h
          cases h
        | ok evaluator =>
          rw [startConsole_of_server hcurrent hof] at h
          exact ⟨server, evaluator, opened, rfl, hof, (Start.console.inj h).symm⟩
  · rintro ⟨server, evaluator, opened, hcurrent, hof, rfl⟩
    exact startConsole_of_server hcurrent hof

/-! ### Getting past the arguments -/

theorem conclude_ne_console (text : String → String)
    (result : Except SettingsError String × Files) (c : Console) :
    conclude text result ≠ .console c := by
  obtain ⟨answer | answer, files⟩ := result <;> nofun

theorem serverCommand_ne_console (database : String) (explicit? url? : Option String)
    (files : Files) (c : Console) : serverCommand database explicit? url? files ≠ .console c := by
  unfold serverCommand
  split
  · exact conclude_ne_console _ _ c
  · split
    · exact conclude_ne_console _ _ c
    · exact conclude_ne_console _ _ c

/-- The arguments ask for a start, and for no command. -/
theorem start_eq_console_iff : start s = .console c ↔
    ∃ a, Arguments.parse s.server s.arguments = .ok a ∧ a.command = none ∧
      startConsole a (a.database.getD (defaultDatabasePath s.home)) s.files = .console c := by
  rw [start]
  cases Arguments.parse s.server s.arguments with
  | error cause =>
    refine iff_of_false (fun h => ?_) nofun
    cases cause <;> cases h
  | ok a =>
    dsimp only
    cases hcommand : a.command with
    | some url? =>
      refine iff_of_false (serverCommand_ne_console _ _ _ _ c) ?_
      rintro ⟨other, hother, hnone, -⟩
      cases hother
      cases hcommand.symm.trans hnone
    | none =>
      constructor
      · exact fun h => ⟨a, rfl, hcommand, h⟩
      · rintro ⟨other, hother, -, h⟩
        cases hother
        exact h

/-- What a start comes to when the arguments are known. -/
theorem exists_of_start (hparse : Arguments.parse s.server s.arguments = .ok a)
    (hs : start s = .console c) :
    a.command = none ∧ ∃ server evaluator opened,
      currentServer (a.database.getD (defaultDatabasePath s.home)) a.server s.files =
        (.ok server, opened) ∧
      Evaluator.of server (a.timeout.map (1000 * ·)) = .ok evaluator ∧
      c = begun ⟨server, a.database.getD (defaultDatabasePath s.home)⟩ evaluator opened a.run := by
  obtain ⟨other, hother, hcommand, hstart⟩ := start_eq_console_iff.mp hs
  cases hparse.symm.trans hother
  exact ⟨hcommand, startConsole_eq_console_iff.mp hstart⟩

/-- A start that gets past everything. -/
theorem start_of_server (hparse : Arguments.parse s.server s.arguments = .ok a)
    (hcommand : a.command = none)
    (hcurrent : currentServer (a.database.getD (defaultDatabasePath s.home)) a.server s.files =
      (.ok server, opened))
    (hof : Evaluator.of server (a.timeout.map (1000 * ·)) = .ok evaluator) :
    start s = .console
      (begun ⟨server, a.database.getD (defaultDatabasePath s.home)⟩ evaluator opened a.run) :=
  start_eq_console_iff.mpr ⟨a, hparse, hcommand, startConsole_of_server hcurrent hof⟩

/-! ### Sessions -/

/-- A session that a start comes to: it waits for its first line, has sent nothing yet, and
its evaluator is the one for its server. -/
theorem start_reading (hs : start s = .console c) (hr : c.phase = .reading) :
    ∃ session evaluator files timeout, Evaluator.of session.server timeout = .ok evaluator ∧
      c = begun session evaluator files none := by
  obtain ⟨a, hparse, -, -⟩ := start_eq_console_iff.mp hs
  obtain ⟨-, server, evaluator, opened, -, hof, rfl⟩ := exists_of_start hparse hs
  cases hrun : a.run with
  | none => exact ⟨⟨server, _⟩, evaluator, opened, _, hof, rfl⟩
  | some expression =>
    rw [hrun] at hr
    cases hr

/-- Whether a start comes to a session that a test holds of. -/
def opens (s : Surroundings) (test : Console → Bool) : Bool :=
  match start s with
  | .console c => c.phase == .reading && test c
  | .ended _ _ _ => false

theorem exists_of_opens {test : Console → Bool} (h : opens s test) :
    ∃ c, start s = .console c ∧ c.phase = .reading ∧ test c := by
  unfold opens at h
  split at h
  · rename_i c hs
    rw [Bool.and_eq_true, beq_iff_eq] at h
    exact ⟨c, hs, h.1, h.2⟩
  · cases h

end EvalConsole.Program
