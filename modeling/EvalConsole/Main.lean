/-
The command line.

Only this module reads and writes: it hands the arguments, the environment and the input to
`Program.start` and `Console.step`, and writes what they leave behind. Settings last as long
as the program runs, and no server can be reached from here.
-/
import EvalConsole.Console.Input
import EvalConsole.Program

namespace EvalConsole.CommandLine

/-- Writes what deeds leave on the two outputs. -/
def write (filter : NoticeFilter) (effects : List Effect) : IO Unit := do
  let time := toString (← IO.monoMsNow)
  (← IO.getStderr).putStr (Effect.stderr filter time effects)
  let stdout ← IO.getStdout
  stdout.putStr (Effect.stdout effects)
  stdout.flush

/-- Goes on with a session and writes what it has done meanwhile. -/
def follow (filter : NoticeFilter) (c next : Console) : IO Console := do
  write filter (next.effects.drop c.effects.length)
  return next

/-- Reads lines until the session or the input ends. `rest` are the bytes behind the last
line end. -/
partial def readLines (filter : NoticeFilter) (stdin : IO.FS.Stream) (rest : List UInt8)
    (c : Console) : IO Console := do
  if c.phase ≠ .reading then return c
  let bytes ← stdin.read 4096
  if bytes.isEmpty then follow filter c (c.run (Input.lastEvents rest))
  else
    let (lines, rest) := Input.cut (rest ++ bytes.toList)
    let c ← follow filter c (c.run (lines.map Input.event))
    let c ← follow filter c (c.answerAll .offline)
    readLines filter stdin rest c

/-- Runs the program. -/
def run (args : List String) : IO UInt32 := do
  let filter := NoticeFilter.ofVariable (← IO.getEnv NoticeFilter.variableName)
  let start := Program.start
    { arguments := args
      home := (← IO.getEnv "HOME").getD ""
      server := ← IO.getEnv serverVariable
      files := .empty }
  match start with
  | .ended _ effects _ => write filter effects
  | .console c =>
    write filter c.effects
    let c ← readLines filter (← IO.getStdin) [] c
    let _ ← follow filter c (c.answerAll .offline)
  return start.exitStatus.toUInt32

end EvalConsole.CommandLine

/-- The command line. -/
def main (args : List String) : IO UInt32 :=
  EvalConsole.CommandLine.run args
