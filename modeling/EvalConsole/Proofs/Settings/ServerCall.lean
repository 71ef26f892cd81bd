/-
The ways to change the saved server.

The program has two calls that change the saved server; its subcommand and a command of a
session come down to them.

* `ServerCall` is one of the two calls.
* `Program.serverCommand_eq` and `Command.runServer_eq`: what is made of a call by the
  subcommand and by the command of a session.
-/
import EvalConsole.Proofs.Console.Dispatch
import EvalConsole.Proofs.Start

namespace EvalConsole

/-- A call that changes the saved server. -/
inductive ServerCall where
  | save (server : String)
  | reset
  deriving DecidableEq, Repr

namespace ServerCall

/-- The call that an argument of a command stands for. -/
def ofArgument (argument : String) : ServerCall :=
  if argument = "reset" then reset else save argument

/-- Makes a call. -/
def run (path : String) (files : Files) : ServerCall → Except SettingsError String × Files
  | save server => saveServer path server files
  | reset => resetServer path files

/-- The server that is saved when a call has succeeded. -/
def saved? : ServerCall → Option String
  | save server => some (Text.trim server)
  | reset => none

/-- What the subcommand writes when a call has come to a server. -/
def announcement (path : String) : ServerCall → String → String
  | save _, server => tick ++ " default server set to " ++ server ++ "\n  saved to " ++ path ++ "\n"
  | reset, server => tick ++ " saved server cleared, default is " ++ server ++ "\n"

/-- What a session writes in front of the server that a call has come to. -/
def success : ServerCall → String
  | save _ => "server changed to "
  | reset => "saved server cleared, using "

end ServerCall

/-- Whether the program has ended with a success. -/
def Start.isSuccess : Start → Bool
  | .ended status _ _ => status == 0
  | .console _ => false

/-- The files after a start. -/
def Start.files : Start → Files
  | .ended _ _ files => files
  | .console c => c.files

/-- Whether a line asks to go on with another server. -/
def Request.isChange : Request → Bool
  | .changeServer _ => true
  | _ => false

/-- The subcommand with an argument makes the call that the argument stands for. -/
theorem Program.serverCommand_eq (path : String) (explicit? : Option String) (argument : String)
    (files : Files) : Program.serverCommand path explicit? (some argument) files =
      Program.conclude ((ServerCall.ofArgument argument).announcement path)
        ((ServerCall.ofArgument argument).run path files) := by
  unfold Program.serverCommand ServerCall.ofArgument
  dsimp only
  split
  · rfl
  · rfl

theorem Program.isSuccess_conclude (text : String → String)
    (answer : Except SettingsError String × Files) :
    (Program.conclude text answer).isSuccess = answer.1.isOk := by
  obtain ⟨server | server, files⟩ := answer <;> rfl

theorem Program.files_conclude (text : String → String)
    (answer : Except SettingsError String × Files) :
    (Program.conclude text answer).files = answer.2 := by
  obtain ⟨server | server, files⟩ := answer <;> rfl

/-- The command of a session with an argument makes the call that the argument stands for. -/
theorem Command.runServer_eq {argument : String} (h : argument.isEmpty = false)
    (session : Session) (files : Files) : Command.runServer argument session files =
      (Command.serverReaction (ServerCall.ofArgument argument).success
          ((ServerCall.ofArgument argument).run session.database files).1,
        ((ServerCall.ofArgument argument).run session.database files).2) := by
  unfold Command.runServer ServerCall.ofArgument
  rw [if_neg (by simp [h])]
  -- the answer is taken as it is: computing it would mean opening the database
  split
  · dsimp only [ServerCall.run]
    generalize resetServer session.database files = answer
    rfl
  · dsimp only [ServerCall.run]
    generalize saveServer session.database argument files = answer
    rfl

theorem Command.isChange_serverReaction (success : String) (answer : Except SettingsError String) :
    (Command.serverReaction success answer).request.isChange = answer.isOk := by
  cases answer <;> rfl

/-- A line makes a call, or it changes no file and asks for no other server. -/
theorem dispatch_call_or_same (line : String) (session : Session) (files : Files) :
    (∃ success, dispatch line session files =
      (Command.serverReaction success
          ((ServerCall.ofArgument (splitLine line).2).run session.database files).1,
        ((ServerCall.ofArgument (splitLine line).2).run session.database files).2)) ∨
      (dispatch line session files).2 = files ∧
        (dispatch line session files).1.request.isChange = false := by
  cases hword : Command.ofWord? (splitLine line).1 with
  | none =>
    obtain ⟨hfiles, hrequest | hrequest⟩ := dispatch_of_ofWord?_eq_none hword session files
    all_goals
      rw [hrequest]
      exact .inr ⟨hfiles, rfl⟩
  | some command =>
    rw [dispatch_of_command hword]
    cases command with
    | help => exact .inr ⟨rfl, rfl⟩
    | status => exact .inr ⟨rfl, rfl⟩
    | quit => exact .inr ⟨rfl, rfl⟩
    | server =>
      cases hempty : (splitLine line).2.isEmpty with
      | true =>
        right
        rw [Command.run, Command.runServer, hempty]
        exact ⟨rfl, rfl⟩
      | false => exact .inl ⟨_, Command.runServer_eq hempty session files⟩

end EvalConsole
