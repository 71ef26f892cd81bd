/-
What is sent for an expression.

* `expressionBody` is the JSON text of the one object that carries an expression.
-/
import EvalConsole.Json.Writer

namespace EvalConsole

/-- The body of a submission: an object whose only member holds the expression. -/
def expressionBody (expr : String) : String :=
  (Json.object [("expr", .string expr)]).write

end EvalConsole
