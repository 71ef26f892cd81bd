/-
What the arguments of the program can be.

* `Parameter` is an option or a value that an argument gives, `Scope` where arguments
  stand: those of the program, or those of one of its two commands.
* `Scope.usage` is the line that sums up a scope, `Scope.helpText` describes it.
* `ArgumentError` is why arguments are refused, `ArgumentError.message` what is said.
-/
import EvalConsole.About
import EvalConsole.Text.Columns

namespace EvalConsole

/-- What an argument can give. -/
inductive Parameter where
  | server
  | database
  | timeout
  | run
  | help
  | version
  /-- The address behind the command that changes the saved server. -/
  | url
  deriving DecidableEq, Repr

namespace Parameter

/-- The name of a parameter. -/
def name : Parameter → String
  | server => "server"
  | database => "db"
  | timeout => "timeout"
  | run => "run"
  | help => "help"
  | version => "version"
  | url => "url"

/-- The letter for a parameter; an address has none. -/
def letter? : Parameter → Option Char
  | server => some 's'
  | database => some 'd'
  | timeout => some 't'
  | run => some 'r'
  | help => some 'h'
  | version => some 'V'
  | url => none

/-- The word that stands for the value of a parameter, if it has one. -/
def valueName? : Parameter → Option String
  | server => some "SERVER"
  | database => some "DB"
  | timeout => some "TIMEOUT"
  | run => some "RUN"
  | help => none
  | version => none
  | url => some "URL"

/-- A parameter as it is written with its value. -/
def label : Parameter → String
  | url => "<URL>"
  | p =>
    match p.valueName? with
    | some value => "--" ++ p.name ++ " <" ++ value ++ ">"
    | none => "--" ++ p.name

/-- A parameter as it is listed, with its letter. -/
def listed (p : Parameter) : String :=
  match p.letter? with
  | some letter => "-" ++ letter.toString ++ ", " ++ p.label
  | none => "[URL]"

/-- What a parameter is for. -/
def description : Parameter → String
  | server => "Evaluation server base URL (the endpoint path is fixed)"
  | database => "SQLite database path for saved settings"
  | timeout => "HTTP timeout in seconds (default: none)"
  | run => "Evaluate a single expression and exit (non-interactive)"
  | help => "Print help"
  | version => "Print version"
  | url => "Server base URL to save, or `reset`"

end Parameter

/-- Where arguments stand. -/
inductive Scope where
  /-- Behind the name of the program. -/
  | program
  /-- Behind the command that shows and changes the saved server. -/
  | server
  /-- Behind the command that describes the others. -/
  | help
  deriving DecidableEq, Repr

namespace Scope

/-- The commands. -/
def commands : List Scope :=
  [server, help]

/-- The word for a command. -/
def name : Scope → String
  | program => About.programName
  | server => "server"
  | help => "help"

/-- What is said about a scope. -/
def description : Scope → String
  | program => "Type an expression, get an answer."
  | server => "Show the default server, save a new one, or `reset` to forget it"
  | help => "Print this message or the help of the given subcommand(s)"

/-- The options of a scope. -/
def options : Scope → List Parameter
  | program => [.server, .database, .timeout, .run, .help, .version]
  | server => [.help]
  | help => []

/-- The words that lead to a scope. -/
def path : Scope → String
  | program => program.name
  | scope => program.name ++ " " ++ scope.name

/-- The line that sums up a scope. Parameters that have been used are named in it. -/
def usage (scope : Scope) (used : List Parameter) : String :=
  let address := if Parameter.url ∈ used then " <URL>" else " [URL]"
  let options := String.join ((used.filter (· ≠ .url)).map fun p => " " ++ p.label)
  "Usage: " ++ scope.path ++
    match scope with
    | program => if used.isEmpty then " [OPTIONS] [COMMAND]" else options
    | server => options ++ address
    | help => " [COMMAND]..."

/-- A headline with lines below. -/
def listing (title : String) (rows : List (String × String)) : List String :=
  if rows.isEmpty then [] else ["", title ++ ":"] ++ Text.columns rows

/-- The values behind a scope. -/
def valueRows : Scope → List (String × String)
  | program => []
  | server => [(Parameter.url.listed, Parameter.url.description)]
  | help => [("[COMMAND]...", "Print help for the subcommand(s)")]

/-- The options of a scope; the variable of the environment is shown beside the option
that it stands in for. -/
def optionRows (scope : Scope) (preset? : Option String) : List (String × String) :=
  scope.options.map fun p =>
    let addition :=
      if p = .server then " [env: " ++ serverVariable ++ "=" ++ preset?.getD "" ++ "]" else ""
    (p.listed, p.description ++ addition)

/-- The description of a scope, given the variable of the environment. -/
def helpText (scope : Scope) (preset? : Option String) : String :=
  let commandRows :=
    if scope = program then commands.map fun c => (c.name, c.description) else []
  String.join (([scope.description, "", scope.usage []]
    ++ listing "Commands" commandRows ++ listing "Arguments" scope.valueRows
    ++ listing "Options" (scope.optionRows preset?)).map (· ++ "\n"))

end Scope

/-- Why a text is no number of 64 bits. -/
inductive NumberError where
  | empty
  | notDigit
  | tooLarge
  deriving DecidableEq, Repr

/-- The words for a failure. -/
def NumberError.message : NumberError → String
  | empty => "cannot parse integer from empty string"
  | notDigit => "invalid digit found in string"
  | tooLarge => "number too large to fit in target type"

/-- The number that digits stand for, behind a number already read. -/
def readDigits (n : Nat) : List Char → Except NumberError Nat
  | [] => .ok n
  | c :: rest =>
    if c.isDigit then
      let next := 10 * n + (c.toNat - '0'.toNat)
      if next < Nat.pow 2 64 then readDigits next rest else .error .tooLarge
    else .error .notDigit

/-- The number of 64 bits that a text stands for; a plus sign may be in front. -/
def readNumber (s : String) : Except NumberError Nat :=
  match s.toList with
  | [] => .error .empty
  | ['+'] => .error .notDigit
  | '+' :: digits => readDigits 0 digits
  | digits => readDigits 0 digits

/-- A hint how an argument could have been meant. -/
inductive Tip where
  /-- An option has a similar name. -/
  | similarOption (p : Parameter)
  /-- Commands have similar names, the least similar first. -/
  | similarCommands (names : List String)
  /-- The argument can be given as a value. -/
  | asValue (argument : String)
  /-- The argument is a command, but for the two dashes in front of it. -/
  | commandBehindDashes (name : String)
  deriving DecidableEq, Repr

/-- The words for a hint. -/
def Tip.text : Tip → String
  | similarOption p => "a similar argument exists: '--" ++ p.name ++ "'"
  | similarCommands names =>
    (match names with
      | [_] => "a similar subcommand exists: "
      | _ => "some similar subcommands exist: ")
      ++ String.intercalate ", " (names.map fun name => "'" ++ name ++ "'")
  | asValue argument => "to pass '" ++ argument ++ "' as a value, use '-- " ++ argument ++ "'"
  | commandBehindDashes name =>
    "subcommand '" ++ name ++ "' exists; to use it, remove the '--' before it"

/-- Why arguments are refused. -/
inductive ArgumentError where
  /-- There is no such option, or no such value is expected. -/
  | unexpected (argument : String) (tips : List Tip) (scope : Scope) (used : List Parameter)
  | unknownCommand (name : String) (tips : List Tip) (scope : Scope)
  | missingValue (p : Parameter)
  | badNumber (p : Parameter) (value : String) (cause : NumberError)
  | repeated (p : Parameter) (scope : Scope)
  /-- A value is given to an option that takes none. -/
  | unneededValue (p : Parameter) (value : String) (scope : Scope) (used : List Parameter)
  deriving DecidableEq, Repr

namespace ArgumentError

/-- What is wrong. -/
def reason : ArgumentError → String
  | unexpected argument _ _ _ => "unexpected argument '" ++ argument ++ "' found"
  | unknownCommand name _ _ => "unrecognized subcommand '" ++ name ++ "'"
  | missingValue p => "a value is required for '" ++ p.label ++ "' but none was supplied"
  | badNumber p value cause =>
    "invalid value '" ++ value ++ "' for '" ++ p.label ++ "': " ++ cause.message
  | repeated p _ => "the argument '" ++ p.label ++ "' cannot be used multiple times"
  | unneededValue p value _ _ =>
    "unexpected value '" ++ value ++ "' for '" ++ p.label ++ "' found; no more were expected"

/-- The hints. -/
def tips : ArgumentError → List Tip
  | unexpected _ tips _ _ => tips
  | unknownCommand _ tips _ => tips
  | _ => []

/-- The line that sums up the scope, where it is shown. -/
def usage? : ArgumentError → Option String
  | unexpected _ _ scope used => some (scope.usage used)
  | unknownCommand _ _ scope => some (scope.usage [])
  | missingValue _ => none
  | badNumber _ _ _ => none
  | repeated _ scope => some (scope.usage [])
  | unneededValue _ _ scope used => some (scope.usage used)

/-- Whether the scope has an option that describes it. -/
def hasHelp : ArgumentError → Bool
  | unknownCommand _ _ .help => false
  | _ => true

/-- What is said about a failure. -/
def message (e : ArgumentError) : String :=
  let hints :=
    if e.tips.isEmpty then ""
    else "\n" ++ String.join (e.tips.map fun tip => "\n  tip: " ++ tip.text)
  let usage :=
    match e.usage? with
    | some usage => "\n\n" ++ usage
    | none => ""
  let advice := if e.hasHelp then "\n\nFor more information, try '--help'.\n" else "\n"
  "error: " ++ e.reason ++ hints ++ usage ++ advice

end ArgumentError

end EvalConsole
