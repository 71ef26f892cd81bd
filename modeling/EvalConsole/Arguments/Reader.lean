/-
Reading the arguments of the program.

An option that stands alone takes the next argument as its value, unless that starts with
a dash. The value is looked at only when the next option comes or the arguments end, so a
mistake in between is found first.

* `Arguments.parse` is the whole reader: it gives the arguments, or what they ask for
  instead of a start (`Stop`).
* `scan` reads the arguments of one scope, up to the name of a command.
-/
import EvalConsole.Arguments.Basic
import EvalConsole.Text.Similarity

namespace EvalConsole

/-- The arguments of the program. -/
structure Arguments where
  /-- The address behind the command for the saved server, if the command is given. -/
  command : Option (Option String)
  server : Option String
  database : Option String
  /-- Seconds to wait for an answer. -/
  timeout : Option Nat
  /-- The expression to be evaluated without a session. -/
  run : Option String
  deriving DecidableEq, Repr

/-- What arguments ask for instead of a start of the program. -/
inductive Stop where
  | help (scope : Scope)
  | version
  | failure (cause : ArgumentError)
  deriving DecidableEq, Repr

namespace Scope

/-- The command with a name, where commands are expected. -/
def command? (scope : Scope) (name : String) : Option Scope :=
  match scope with
  | program => commands.find? fun c => c.name == name
  | _ => none

/-- The option with a name. -/
def named? (scope : Scope) (name : String) : Option Parameter :=
  scope.options.find? fun p => p.name == name

/-- The option with a letter. -/
def lettered? (scope : Scope) (letter : Char) : Option Parameter :=
  scope.options.find? fun p => p.letter? == some letter

/-- The option with the name most similar to another one, if any is similar. -/
def similar? (scope : Scope) (name : String) : Option Parameter :=
  (Similarity.similar name (scope.options.map Parameter.name)).getLast?.bind scope.named?

/-- Whether values are expected. -/
def hasValues (scope : Scope) : Bool :=
  scope == server

end Scope

/-- How far the arguments of a scope have been read. -/
structure Reading where
  /-- What has been given, in order. -/
  given : List (Parameter × String)
  /-- An option or value that was met last, with its value if that was met too. -/
  pending : Option (Parameter × Option String)
  deriving DecidableEq, Repr

namespace Reading

/-- Before the first argument. -/
def start : Reading :=
  ⟨[], none⟩

/-- Whether an option stands alone. -/
def awaitsValue (r : Reading) : Bool :=
  match r.pending with
  | some (_, none) => true
  | _ => false

/-- The parameters that have been given. -/
def used (r : Reading) : List Parameter :=
  r.given.map (·.1)

/-- Whether an address has been met. -/
def hasUrl (r : Reading) : Bool :=
  r.used.contains .url || r.pending.any (·.1 == .url)

/-- What is wrong with a value. -/
def checkValue (p : Parameter) (value : String) : Option ArgumentError :=
  match p with
  | .timeout =>
    match readNumber value with
    | .ok _ => none
    | .error cause => some (.badNumber p value cause)
  | .database => if value.isEmpty then some (.missingValue p) else none
  | _ => none

/-- Notes the value of a parameter. A value that is wrong still counts as given, a
repeated parameter counts no more. -/
def take (r : Reading) (scope : Scope) (p : Parameter) (value : String) :
    Reading × Option ArgumentError :=
  if r.used.contains p then
    ({ r with given := r.given.filter fun entry => entry.1 != p }, some (.repeated p scope))
  else ({ r with given := r.given ++ [(p, value)] }, checkValue p value)

/-- Notes what was met last. -/
def settle (r : Reading) (scope : Scope) : Reading × Option ArgumentError :=
  let rest := { r with pending := none }
  match r.pending with
  | none => (r, none)
  | some (p, none) => (rest, some (.missingValue p))
  | some (p, some value) => rest.take scope p value

/-- A reading, unless something is wrong. -/
def orStop : Reading × Option ArgumentError → Except Stop Reading
  | (r, none) => .ok r
  | (_, some cause) => .error (.failure cause)

/-- Meets an option with its value. -/
def attach (r : Reading) (scope : Scope) (p : Parameter) (value : String) :
    Except Stop Reading :=
  (orStop (r.settle scope)).bind fun r => orStop (r.take scope p value)

/-- Meets an option whose value comes next. -/
def await (r : Reading) (scope : Scope) (p : Parameter) : Except Stop Reading :=
  (orStop (r.settle scope)).map fun r => { r with pending := some (p, none) }

/-- Meets an option without a value: it ends the reading. -/
def act (r : Reading) (scope : Scope) (p : Parameter) : Except Stop Reading :=
  (orStop (r.settle scope)).bind fun _ =>
    .error (if p = .version then .version else .help scope)

/-- The name of an option and the value behind the first equals sign. -/
def cutAtEquals (s : List Char) : String × Option String :=
  let name := String.ofList (s.takeWhile (· != '='))
  match s.dropWhile (· != '=') with
  | _ :: value => (name, some (String.ofList value))
  | [] => (name, none)

/-- Meets a name that is no option. -/
def refuseName (r : Reading) (scope : Scope) (name : String) : ArgumentError :=
  let used := (r.settle scope).1.used
  let argument := "--" ++ name
  match scope.similar? name with
  | some p =>
    .unexpected argument [.similarOption p] scope (if used.contains p then used else used ++ [p])
  | none => .unexpected argument (if scope.hasValues then [.asValue argument] else []) scope used

/-- Reads an argument that starts with two dashes; they are left out. -/
def readLong (r : Reading) (scope : Scope) (s : List Char) : Except Stop Reading :=
  let (name, value?) := cutAtEquals s
  match scope.named? name with
  | some p =>
    match p.valueName?, value? with
    | some _, some value => r.attach scope p value
    | some _, none => r.await scope p
    | none, some value => .error (.failure (.unneededValue p value scope (r.used ++ [p])))
    | none, none => r.act scope p
  | none => .error (.failure (r.refuseName scope name))

/-- Reads an argument that starts with one dash: a letter, and what is behind it. -/
def readShort (r : Reading) (scope : Scope) (letter : Char) (rest : List Char) :
    Except Stop Reading :=
  match scope.lettered? letter with
  | some p =>
    match p.valueName?, rest with
    | none, _ => r.act scope p
    | some _, [] => r.await scope p
    | some _, '=' :: value => r.attach scope p (String.ofList value)
    | some _, value => r.attach scope p (String.ofList value)
  | none =>
    let argument := "-" ++ letter.toString
    .error (.failure (.unexpected argument
      (if scope.hasValues then [.asValue argument] else []) scope []))

/-- Why a value is refused where none is expected. -/
def refuseValue (scope : Scope) (trailing : Bool) (argument : String) : ArgumentError :=
  match scope with
  | .program =>
    if trailing ∧ (scope.command? argument).isSome then
      .unexpected argument [.commandBehindDashes argument] scope []
    else
      match Similarity.similar argument (Scope.commands.map Scope.name) with
      | [] => .unknownCommand argument [] scope
      | names => .unknownCommand argument [.similarCommands names] scope
  | _ => .unexpected argument [] scope []

/-- Reads an argument that is a value: of the option that stands alone, or by itself. -/
def readValue (r : Reading) (scope : Scope) (trailing : Bool) (argument : String) :
    Except Stop Reading :=
  match r.pending, trailing with
  | some (p, none), false => .ok { r with pending := some (p, some argument) }
  | _, _ =>
    if scope.hasValues ∧ ¬ r.hasUrl then
      (orStop (r.settle scope)).map fun r => { r with pending := some (.url, some argument) }
    else .error (.failure (refuseValue scope trailing argument))

/-- Reads an argument that is no name of a command and does not end the options. -/
def read (r : Reading) (scope : Scope) (trailing : Bool) (argument : String) :
    Except Stop Reading :=
  match trailing, argument.toList with
  | false, '-' :: '-' :: name => r.readLong scope name
  | false, '-' :: letter :: rest => r.readShort scope letter rest
  | _, _ => r.readValue scope trailing argument

end Reading

/-- The description that is asked for by the words behind the command for it. -/
def describe : List String → Stop
  | [] => .help .program
  | name :: rest =>
    match Scope.program.command? name, rest with
    | none, _ => .failure (.unknownCommand name [] .program)
    | some scope, [] => .help scope
    | some scope, other :: _ => .failure (.unknownCommand other [] scope)

/-- Reads the arguments of a scope, up to the command for the saved server. `trailing` says
that the options have ended; the answer holds what stands behind the command. -/
def scan (scope : Scope) (r : Reading) (trailing : Bool) :
    List String → Except Stop (Reading × Option (List String))
  | [] => .ok (r, none)
  | argument :: rest =>
    let command? := if trailing || r.awaitsValue then none else scope.command? argument
    match command? with
    | some .help => .error (describe rest)
    | some _ => .ok (r, some rest)
    | none =>
      if trailing = false ∧ argument = "--" then scan scope r true rest
      else
        match r.read scope trailing argument with
        | .ok r => scan scope r trailing rest
        | .error stop => .error stop

namespace Arguments

/-- The address behind the command for the saved server. -/
def parseCommand (args : List String) : Except Stop (Option String) := do
  let (r, _) ← scan .server .start false args
  let r ← Reading.orStop (r.settle .server)
  return r.given.lookup .url

/-- Reads the arguments; `preset?` is the server that the environment names. -/
def parse (preset? : Option String) (args : List String) : Except Stop Arguments := do
  let (r, rest?) ← scan .program .start false args
  let command ←
    match rest? with
    | some rest => do
      let url ← parseCommand rest
      pure (some url)
    | none => pure none
  let r ← Reading.orStop (r.settle .program)
  return {
    command
    server := (r.given.lookup .server).or preset?
    database := r.given.lookup .database
    timeout := (r.given.lookup .timeout).bind fun value => (readNumber value).toOption
    run := r.given.lookup .run }

end Arguments

end EvalConsole
