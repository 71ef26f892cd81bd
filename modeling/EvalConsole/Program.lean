/-
The program as a whole.

Arguments are read first, then settings; then there is a session, a single expression, or
the work of the command for the saved server.

* `Program.start` is all that happens before the first line is read.
* `Program.report` is what is written about a failure.
-/
import EvalConsole.Arguments.Reader
import EvalConsole.Banner
import EvalConsole.Console.Basic

namespace EvalConsole

/-- What the program finds when it is started. -/
structure Surroundings where
  arguments : List String
  /-- The home directory. -/
  home : String
  /-- The server that the environment names. -/
  server : Option String
  files : Files

/-- What a start comes to. -/
inductive Start where
  /-- The program has ended with a status already. -/
  | ended (status : UInt8) (effects : List Effect) (files : Files)
  /-- There is a session, or a single expression on its way. -/
  | console (c : Console)

/-- The status that the program ends with. At the end of a session or a single expression it is one
of success, whatever the answers were. -/
def Start.exitStatus : Start → UInt8
  | ended status _ _ => status
  | console _ => 0

namespace Program

/-- The lines of a text, those behind the first one indented. -/
def indented (indent : String) (text : String) : String :=
  String.ofList (text.toList.flatMap fun c => if c = '\n' then c :: indent.toList else [c])

/-- A cause of several, behind its number. -/
def numbered (cause : String) (n : Nat) : String :=
  let digits := toString n
  let number := String.ofList (List.replicate (5 - digits.length) ' ') ++ digits ++ ": "
  "\n" ++ number ++ indented "       " cause

/-- What is written about the causes of a failure. -/
def reportCauses : List String → String
  | [] => ""
  | [cause] => "\n\nCaused by:\n    " ++ indented "    " cause
  | causes => "\n\nCaused by:" ++ String.join (causes.zipIdx.map fun (cause, n) => numbered cause n)

/-- What is written about a failure, given its texts from the outermost to the root. -/
def report : List String → String
  | [] => ""
  | text :: causes => "Error: " ++ text ++ reportCauses causes ++ "\n"

/-- The end of the program after a failure. -/
def fail (chain : List String) (files : Files) : Start :=
  .ended 1 [.complain (report chain)] files

/-- The end of the program with a text printed. -/
def succeed (text : String) (files : Files) : Start :=
  .ended 0 [.print text] files

/-- What is done when the arguments ask for no start. -/
def stop (s : Surroundings) : Stop → Start
  | .help scope => succeed (scope.helpText s.server) s.files
  | .version => succeed (About.programName ++ " " ++ About.version ++ "\n") s.files
  | .failure cause => .ended 2 [.complain cause.message] s.files

/-- The server in effect, from a database opened for that. -/
def currentServer (database : String) (explicit? : Option String) (files : Files) :
    Except SettingsError String × Files :=
  match Store.openAt database files with
  | (.error cause, files) => (.error (.cannotOpen cause), files)
  | (.ok store, files) => (resolveServer explicit? store files, files)

/-- The end of the program after work that came to a server or failed. -/
def conclude (text : String → String) : Except SettingsError String × Files → Start
  | (.ok server, files) => succeed (text server) files
  | (.error cause, files) => fail cause.chain files

/-- Shows the server in effect, saves another one or forgets the saved one. -/
def serverCommand (database : String) (explicit? url? : Option String) (files : Files) : Start :=
  match url? with
  | none => conclude (· ++ "\n") (currentServer database explicit? files)
  | some url =>
    if url = "reset" then
      conclude (fun server => tick ++ " saved server cleared, default is " ++ server ++ "\n")
        (resetServer database files)
    else
      conclude (fun server =>
          tick ++ " default server set to " ++ server ++ "\n  saved to " ++ database ++ "\n")
        (saveServer database url files)

/-- The banner of a session. -/
def banner (session : Session) (evaluator : Evaluator) : Banner :=
  ⟨session.server, evaluator.endpoint.text, session.database⟩

/-- Starts a session, or sends a single expression off. -/
def startConsole (a : Arguments) (database : String) (files : Files) : Start :=
  match currentServer database a.server files with
  | (.error cause, files) => fail cause.chain files
  | (.ok server, files) =>
    match Evaluator.of server (a.timeout.map (1000 * ·)) with
    | .error cause => fail cause.chain files
    | .ok evaluator =>
      let session : Session := ⟨server, database⟩
      match a.run with
      | some expression =>
        .console (Console.submit ⟨.single, session, evaluator, files, [], [], []⟩ expression)
      | none =>
        let greeting := Effect.print (banner session evaluator).printed
        .console (Console.ask ⟨.reading, session, evaluator, files, [], [], [greeting]⟩)

/-- All that happens before the first line is read. -/
def start (s : Surroundings) : Start :=
  match Arguments.parse s.server s.arguments with
  | .error cause => stop s cause
  | .ok a =>
    let database := a.database.getD (defaultDatabasePath s.home)
    match a.command with
    | some url? => serverCommand database a.server url? s.files
    | none => startConsole a database s.files

end Program

end EvalConsole
