/-
Commands of a session.

A line whose first word starts with a slash is a command; every other line is an
expression. Words are cut at white space.

* `Command.ofWord?` finds a command by its name or another word for it.
* `dispatch` carries a line out, if it is a command.
* `Command.helpText` lists the commands.
-/
import EvalConsole.Settings.Server
import EvalConsole.Text.Columns

namespace EvalConsole

/-- The commands. -/
inductive Command where
  | help
  | status
  | server
  | quit
  deriving DecidableEq, Repr

namespace Command

/-- The commands in the order in which they are listed. -/
def all : List Command :=
  [help, status, server, quit]

/-- The word for a command. -/
def name : Command → String
  | help => "/help"
  | status => "/status"
  | server => "/server"
  | quit => "/quit"

/-- Further words for a command. -/
def aliases : Command → List String
  | help => ["/h", "/?"]
  | status => []
  | server => []
  | quit => ["/exit"]

/-- What a command does. -/
def description : Command → String
  | help => "show this help"
  | status => "show server, endpoint, and config location"
  | server => "show the server, switch to and save a new one, or `reset` it"
  | quit => "exit the REPL"

/-- All words for a command. -/
def words (c : Command) : List String :=
  c.name :: c.aliases

/-- The command that a word stands for. -/
def ofWord? (word : String) : Option Command :=
  all.find? fun c => c.words.contains word

/-- A command as it is listed: its name, and the other words in brackets. -/
def label (c : Command) : String :=
  if c.aliases.isEmpty then c.name
  else c.name ++ " (" ++ String.intercalate ", " c.aliases ++ ")"

/-- The list of the commands, their descriptions in one column. -/
def helpText : String :=
  String.join ((Text.columns (all.map fun c => (c.label, c.description))).map (· ++ "\n"))

end Command

/-- What a session is about. -/
structure Session where
  server : String
  database : String
  deriving DecidableEq, Repr

/-- What a line asks of the session. -/
inductive Request where
  /-- The line is an expression. -/
  | expression
  /-- Nothing more: the command has been carried out. -/
  | handled
  /-- To go on with another server. -/
  | changeServer (server : String)
  /-- To end. -/
  | quit
  deriving DecidableEq, Repr

/-- A line carried out: what it asks of the session, and what was written. -/
structure Reaction where
  request : Request
  stdout : String
  stderr : String
  deriving DecidableEq, Repr

/-- The mark of a success. -/
def tick : String :=
  "✓"

/-- The mark of a failure. -/
def cross : String :=
  "✗"

namespace Command

/-- Shows the particulars of a session. -/
def runStatus (session : Session) : Reaction :=
  let address :=
    match endpoint session.server with
    | .ok url => url.text
    | .error cause => cross ++ " " ++ (cause.chain.head?).getD ""
  { request := .handled
    stdout := "  server    " ++ session.server ++ "\n  endpoint  " ++ address
      ++ "\n  config    " ++ session.database ++ "\n"
    stderr := "" }

/-- The reaction to a change of the saved server, or to its failure. -/
def serverReaction (success : String) : Except SettingsError String → Reaction
  | .ok text => ⟨.changeServer text, "  " ++ tick ++ " " ++ success ++ text ++ "\n", ""⟩
  | .error cause => ⟨.handled, "", "  " ++ cross ++ " " ++ cause.message ++ "\n"⟩

/-- Shows the server, or changes the saved one. -/
def runServer (argument : String) (session : Session) (files : Files) : Reaction × Files :=
  if argument.isEmpty then (⟨.handled, "  " ++ session.server ++ "\n", ""⟩, files)
  else if argument = "reset" then
    let (result, files) := resetServer session.database files
    (serverReaction "saved server cleared, using " result, files)
  else
    let (result, files) := saveServer session.database argument files
    (serverReaction "server changed to " result, files)

/-- Carries a command out. -/
def run (c : Command) (argument : String) (session : Session) (files : Files) :
    Reaction × Files :=
  match c with
  | help => (⟨.handled, helpText, ""⟩, files)
  | status => (runStatus session, files)
  | server => runServer argument session files
  | quit => (⟨.quit, "", ""⟩, files)

end Command

/-- The first word of a line, and the trimmed text behind it. -/
def splitLine (line : String) : String × String :=
  let (word, rest) := Text.cutWord (Text.trimChars line.toList)
  (String.ofList word, String.ofList (Text.trimChars rest))

/-- Carries a line out. -/
def dispatch (line : String) (session : Session) (files : Files) : Reaction × Files :=
  let (word, argument) := splitLine line
  match Command.ofWord? word with
  | some command => command.run argument session files
  | none =>
    if word.toList.head? = some '/' then
      (⟨.handled, "unknown command: " ++ word ++ "\ntype /help for available commands\n", ""⟩,
        files)
    else (⟨.expression, "", ""⟩, files)

end EvalConsole
