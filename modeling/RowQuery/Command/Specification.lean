import RowQuery.Command.Constant
import RowQuery.QueryOption
import RowQuery.Text.Search

/-!
Specifications of columns on the command line: a name, behind colons a type
and a direction, and for filters behind an equals sign a constant.
-/

namespace RowQuery

inductive ArgumentError where
  | noComparison (spec : String)
  | noColumnName (spec : String)
  | tooManyParts (spec : String)
  | name (error : NameError)
  | constant (error : ConstantError)
deriving DecidableEq, Repr

def ArgumentError.message : ArgumentError → String
  | .noComparison spec => "'" ++ spec ++ "' is not of the form COLUMN:TYPE=VALUE"
  | .noColumnName spec => "'" ++ spec ++ "' has no column name"
  | .tooManyParts spec => "'" ++ spec ++ "' has too many ':'-separated parts"
  | .name error => error.message
  | .constant error => error.message

structure ColumnSpec where
  name : String
  type : Option ColumnType
  direction : Direction
deriving DecidableEq, Repr

namespace ColumnSpec

def orArgument {α : Type} : Except NameError α → Except ArgumentError α
  | .ok a => .ok a
  | .error e => .error (.name e)

def readParts (spec name : String) : List String → Except ArgumentError ColumnSpec
  | [] => .ok ⟨name, none, .ascending⟩
  | [type] => do
    let t ← orArgument (ColumnType.parse type)
    return ⟨name, some t, .ascending⟩
  | type :: direction :: others => do
    let t ← orArgument (ColumnType.parse type)
    let d ← orArgument (Direction.parse direction)
    if others.isEmpty then return ⟨name, some t, d⟩
    throw (.tooManyParts spec)

def read (spec : String) : Except ArgumentError ColumnSpec :=
  let pieces := (Text.splitAll ':' spec.toList).map String.ofList
  let name := Text.trimmed (pieces.headD "")
  if name.isEmpty then .error (.noColumnName spec) else readParts spec name pieces.tail

end ColumnSpec

structure EqualitySpec where
  name : String
  type : ColumnType
  value : Value

/-- Reads a column and a constant. Columns without a type are strings. -/
def EqualitySpec.read (spec : String) : Except ArgumentError EqualitySpec :=
  match Text.splitFirst? '=' spec.toList with
  | none => .error (.noComparison spec)
  | some (column, value) => do
    let c ← ColumnSpec.read (String.ofList column)
    let type := c.type.getD .string
    match Value.readConstant (String.ofList value) type with
    | .ok v => return ⟨c.name, type, v⟩
    | .error e => throw (.constant e)

end RowQuery
