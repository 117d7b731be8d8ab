import RowQuery.Command.Error

/-!
The command that reads a row from JSON text and gives the row or one of its
columns as JSON, converted to a type if there is one.
-/

namespace RowQuery

structure RowOptions where
  input : Option String
  column : Option String
  columnType : Option String

namespace RowOptions

def reading (column : String) (type : Option String) : Except CommandError Expr :=
  let read := Expr.column (.row "row") .any column
  match type with
  | none => .ok read
  | some text => do
    let t ← CommandError.lift (fun e => .argument (.name e)) (ColumnType.parse text)
    return .convert read t

def run (o : RowOptions) : Except CommandError Json := do
  let some text := o.input | throw .noInput
  let json ← CommandError.lift .json (Json.read text)
  let row ← CommandError.lift .row json.toRow
  match o.column with
  | none => return (Value.row row).toJson
  | some column =>
    let read ← reading column o.columnType
    let v ← CommandError.lift .evaluation (read.evaluate (Bindings.empty.bind "row" (.row row)))
    return v.toJson

end RowOptions

end RowQuery
