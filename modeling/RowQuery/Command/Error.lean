import RowQuery.Command.Specification
import RowQuery.Expr.Normalize
import RowQuery.Expr.Counterpart
import RowQuery.Value.Json

/-!
Everything that stops a command, with a heading that says in which part of
the work it happened.
-/

namespace RowQuery

inductive CommandError where
  | argument (error : ArgumentError)
  | node (error : NodeError)
  | row (error : RowError)
  | normalize (error : NormalizeError)
  | counterpart (error : CounterpartError)
  | evaluation (error : EvalError)
  | json (error : Json.ReadError)
  | noInput
  /-- A query without text, which no options describe. -/
  | noText
deriving DecidableEq, Repr

namespace CommandError

def message : CommandError → String
  | .argument error => "Invalid argument: " ++ error.message
  | .node error => "Expression error: " ++ error.message
  | .row error => "Row error: " ++ error.message
  | .normalize error => "Normalize error: " ++ error.message
  | .counterpart error => "Translate error: " ++ error.message
  | .evaluation error => "Evaluation error: " ++ error.message
  | .json error => "Invalid JSON: " ++ error.message
  | .noInput => "No input provided. Use --input or pipe JSON to stdin."
  | .noText => "the query has no text"

def lift {ε α : Type} (part : ε → CommandError) : Except ε α → Except CommandError α
  | .ok a => .ok a
  | .error e => .error (part e)

end CommandError

end RowQuery
