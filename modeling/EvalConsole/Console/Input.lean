/-
Lines of the input.

A line ends with a line feed; a carriage return in front of it belongs to the line end. The
last line may lack its end.

* `Input.cut` cuts bytes into lines, `Input.event` is what a line stands for.
-/
import EvalConsole.Console.Basic

namespace EvalConsole.Input

/-- The byte that ends a line. -/
def lineFeed : UInt8 :=
  0x0A

/-- The lines that bytes hold, with their ends, and the bytes behind the last end. -/
def cut : List UInt8 → List (List UInt8) × List UInt8
  | [] => ([], [])
  | b :: bytes =>
    let (lines, rest) := cut bytes
    if b = lineFeed then ([b] :: lines, rest)
    else
      match lines with
      | [] => ([], b :: rest)
      | line :: lines => ((b :: line) :: lines, rest)

/-- A line without its end. -/
def withoutEnd (line : List Char) : List Char :=
  match line.reverse with
  | '\n' :: '\r' :: rest => rest.reverse
  | '\n' :: rest => rest.reverse
  | _ => line

/-- What a line stands for. -/
def event (line : List UInt8) : Event :=
  match Utf8.decode line with
  | .ok text => .line (String.ofList (withoutEnd text.toList))
  | .error cause => .badLine cause

/-- What bytes stand for that end the input. -/
def lastEvents (rest : List UInt8) : List Event :=
  (if rest.isEmpty then [] else [event rest]) ++ [.endOfInput]

/-- What the whole input stands for. -/
def events (bytes : List UInt8) : List Event :=
  let (lines, rest) := cut bytes
  lines.map event ++ lastEvents rest

/-- Text as lines. Joined again, the lines are the bytes they were cut from. -/
theorem flatten_cut (bytes : List UInt8) :
    (cut bytes).1.flatten ++ (cut bytes).2 = bytes := by
  induction bytes with
  | nil => rfl
  | cons b bytes ih =>
    rw [cut]
    split
    rename_i lines rest h
    rw [h] at ih
    by_cases hb : b = lineFeed
    · simp only [hb, if_true, List.flatten_cons]
      exact congrArg (lineFeed :: ·) ih
    · rw [if_neg hb]
      cases lines with
      | nil => exact congrArg (b :: ·) ih
      | cons line lines => exact congrArg (b :: ·) ih

end EvalConsole.Input
