/-
The default server.

The server in effect is the one named explicitly, else the one saved, else a fixed one. Only
a text that names a server is saved.

* `resolveServer` is the server in effect.
* `saveServer` saves a server, `resetServer` forgets the saved one; each opens the
  database anew.
-/
import EvalConsole.Endpoint
import EvalConsole.Settings.Store

namespace EvalConsole

/-- The server in effect when none is named or saved. -/
def defaultServer : String :=
  "http://localhost:8000"

/-- Why settings cannot be read or changed. -/
inductive SettingsError where
  | badServer (cause : EndpointError)
  | cannotOpen (cause : OpenError)
  | cannotRead (cause : StatementError)
  | cannotWrite (cause : StatementError)
  | cannotSave (cause : StatementError)
  | cannotReset (cause : StatementError)
  deriving DecidableEq, Repr

/-- The texts of a failure, from the outermost to its root. -/
def SettingsError.chain : SettingsError → List String
  | badServer cause => cause.chain
  | cannotOpen cause => cause.chain
  | cannotRead cause => cause.chain
  | cannotWrite cause => cause.chain
  | cannotSave cause => "failed to save server" :: cause.chain
  | cannotReset cause => "failed to clear saved server" :: cause.chain

/-- The texts of a failure on one line. -/
def SettingsError.message (e : SettingsError) : String :=
  String.intercalate ": " e.chain

/-- The server named explicitly: the trimmed text, unless that is empty. -/
def explicitServer? (explicit : Option String) : Option String :=
  (explicit.map Text.trim).filter fun server => server != ""

/-- The server in effect. -/
def resolveServer (explicit : Option String) (store : Store) (files : Files) :
    Except SettingsError String :=
  match explicitServer? explicit with
  | some server => .ok server
  | none =>
    match store.get? files serverKey with
    | .ok saved => .ok (saved.getD defaultServer)
    | .error cause => .error (.cannotRead cause)

/-- Saves a server; the answer is the text that was saved. A text that names no server
is refused before anything is opened. -/
def saveServer (path server : String) (files : Files) : Except SettingsError String × Files :=
  let server := Text.trim server
  match endpoint server with
  | .error cause => (.error (.badServer cause), files)
  | .ok _ =>
    match Store.openAt path files with
    | (.error cause, files) => (.error (.cannotOpen cause), files)
    | (.ok store, files) =>
      match store.set files serverKey server with
      | .error cause => (.error (.cannotSave cause), files)
      | .ok (_, files) => (.ok server, files)

/-- Forgets the saved server; the answer is the server in effect afterwards. -/
def resetServer (path : String) (files : Files) : Except SettingsError String × Files :=
  match Store.openAt path files with
  | (.error cause, files) => (.error (.cannotOpen cause), files)
  | (.ok store, files) =>
    match store.remove files serverKey with
    | .error cause => (.error (.cannotReset cause), files)
    | .ok (store, files) => (resolveServer none store files, files)

end EvalConsole
