import RowQuery.Operator
import RowQuery.Row

/-!
What can go wrong when an expression is evaluated. Faults of type name the
operation and the kinds of the values that it was given.
-/

namespace RowQuery

inductive TypeFault where
  | overflow (operator : String)
  | binaryOperands (op : BinaryOp) (left right : String)
  | unaryOperand (op : UnaryOp) (kind : String)
  | notBoolean (op : BinaryOp) (kind : String)
  | notRow (kind : String)
  | ownerMissing (member : String)
  | receiverMissing (method : String)
  | notString (method kind : String)
  | stringArgument (method : String)
  | columnNameArgument (method : String)
  | unknownMethod (method : String)
  | lengthTooLarge
  | unrelatedTypes (left right : EdmType)
  | widening (value : String) (target : EdmType)
  | conversion (kind value : String) (target : ColumnType)
deriving DecidableEq, Repr

def TypeFault.message : TypeFault → String
  | .overflow operator => "arithmetic overflow in '" ++ operator ++ "'"
  | .binaryOperands op left right =>
    "cannot apply '" ++ op.keyword ++ "' to " ++ left ++ " and " ++ right
  | .unaryOperand op kind => "cannot apply '" ++ op.keyword ++ "' to " ++ kind
  | .notBoolean op kind => "operands of '" ++ op.keyword ++ "' must be booleans, got " ++ kind
  | .notRow kind => "expected a row, got " ++ kind
  | .ownerMissing member => "member '" ++ member ++ "' has no receiver"
  | .receiverMissing method => method ++ " called without a receiver"
  | .notString method kind => "'" ++ method ++ "' needs a string receiver, got " ++ kind
  | .stringArgument method => "'" ++ method ++ "' expects one string argument"
  | .columnNameArgument method => method ++ " expects a single string column name"
  | .unknownMethod method => "unknown method '" ++ method ++ "'"
  | .lengthTooLarge => "string length exceeds Int32"
  | .unrelatedTypes left right =>
    "no implicit conversion between " ++ left.name ++ " and " ++ right.name
  | .widening value target => "cannot widen " ++ value ++ " to " ++ target.name
  | .conversion kind value target =>
    "cannot convert " ++ kind ++ " '" ++ value ++ "' to " ++ target.text

inductive EvalError where
  | unbound (parameter : String)
  | row (error : RowError)
  | type (fault : TypeFault)
  | divisionByZero
deriving DecidableEq, Repr

def EvalError.message : EvalError → String
  | .unbound parameter => "parameter '" ++ parameter ++ "' is not bound"
  | .row error => error.message
  | .type fault => "type error: " ++ fault.message
  | .divisionByZero => "division by zero"

end RowQuery
