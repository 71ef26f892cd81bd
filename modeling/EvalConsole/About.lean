/-
The program itself.

* `About` names the program, its author and where it is at home.
* `defaultDatabasePath` is where settings are kept unless another place is named.
-/
import EvalConsole.Settings.Files

namespace EvalConsole

namespace About

/-- The name of the program. -/
def programName : String :=
  "evalpad"

/-- The version of the program. -/
def version : String :=
  "0.1.0"

/-- The author of the program. -/
def author : String :=
  "Assaf Sapir <assaf@sapir.io>"

/-- The author's page. -/
def homepage : String :=
  "https://sapir.io"

/-- Where the program is kept. -/
def repository : String :=
  "https://github.com/assapir/evalpad"

end About

/-- The variable of the environment that names a server. -/
def serverVariable : String :=
  "EVALPAD_SERVER"

/-- The database of settings, below a home directory. -/
def defaultDatabasePath (home : String) : String :=
  FilePath.joined (FilePath.joined home ".evalpad") "evalpad.db"

end EvalConsole
