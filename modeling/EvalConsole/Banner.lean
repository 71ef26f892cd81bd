/-
What is shown at the start of a session.

* `Banner.text` is a frame with the title and the particulars of the session.
-/
import EvalConsole.About

namespace EvalConsole

/-- The particulars of a session. -/
structure Banner where
  server : String
  endpoint : String
  database : String
  deriving DecidableEq, Repr

namespace Banner

/-- The lines of the banner. -/
def lines (b : Banner) : List String :=
  ["",
    "   ╔═══════════════════════════════════════╗",
    "   ║            E V A L P A D              ║",
    "   ║   type an expression, get an answer   ║",
    "   ╚═══════════════════════════════════════╝",
    "",
    "   version   " ++ About.version,
    "   by        " ++ About.author,
    "   home      " ++ About.homepage,
    "   repo      " ++ About.repository,
    "   server    " ++ b.server,
    "   endpoint  " ++ b.endpoint,
    "   config    " ++ b.database,
    "",
    "   /help for commands, Ctrl+D to exit"]

/-- The banner; every line ends with a line end. -/
def text (b : Banner) : String :=
  String.join (b.lines.map (· ++ "\n"))

/-- What is written for the banner: an empty line follows it. -/
def printed (b : Banner) : String :=
  b.text ++ "\n"

end Banner

end EvalConsole
