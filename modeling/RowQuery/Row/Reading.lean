import RowQuery.Row

/-!
Typed reads. A type that a column can be read as says which column type it
is, how it takes a value or null, and what value it is again. An optional
type is the nullable form of the type below it.
-/

namespace RowQuery

class ColumnValue (α : Type) where
  columnType : ColumnType
  /-- The reading of a value other than null. -/
  ofValue? : Value → Option α
  /-- The reading of null. -/
  ofNull? : Option α
  toValue : α → Value

namespace ColumnValue

instance : ColumnValue Bool where
  columnType := .ofEdm .boolean
  ofValue? | .boolean b => some b | _ => none
  ofNull? := none
  toValue := .boolean

instance : ColumnValue UInt8 where
  columnType := .ofEdm .byte
  ofValue? | .byte n => some n | _ => none
  ofNull? := none
  toValue := .byte

instance : ColumnValue Int16 where
  columnType := .ofEdm .int16
  ofValue? | .int16 n => some n | _ => none
  ofNull? := none
  toValue := .int16

instance : ColumnValue Int32 where
  columnType := .ofEdm .int32
  ofValue? | .int32 n => some n | _ => none
  ofNull? := none
  toValue := .int32

instance : ColumnValue Int64 where
  columnType := .ofEdm .int64
  ofValue? | .int64 n => some n | _ => none
  ofNull? := none
  toValue := .int64

instance : ColumnValue Single where
  columnType := .ofEdm .single
  ofValue? | .single x => some x | _ => none
  ofNull? := none
  toValue := .single

instance : ColumnValue Double where
  columnType := .ofEdm .double
  ofValue? | .double x => some x | _ => none
  ofNull? := none
  toValue := .double

instance : ColumnValue Decimal where
  columnType := .ofEdm .decimal
  ofValue? | .decimal d => some d | _ => none
  ofNull? := none
  toValue := .decimal

instance : ColumnValue Moment where
  columnType := .ofEdm .dateTime
  ofValue? | .dateTime m => some m | _ => none
  ofNull? := none
  toValue := .dateTime

instance : ColumnValue Guid where
  columnType := .ofEdm .guid
  ofValue? | .guid g => some g | _ => none
  ofNull? := none
  toValue := .guid

instance : ColumnValue String where
  columnType := .ofEdm .string
  ofValue? | .string s => some s | _ => none
  ofNull? := none
  toValue := .string

instance : ColumnValue (List UInt8) where
  columnType := .ofEdm .binary
  ofValue? | .binary bytes => some bytes | _ => none
  ofNull? := none
  toValue := .binary

instance : ColumnValue TypeRef where
  columnType := .ofEdm .typeRef
  ofValue? | .typeRef t => some t | _ => none
  ofNull? := none
  toValue := .typeRef

instance : ColumnValue Row where
  columnType := .row
  ofValue? := Value.asRow?
  ofNull? := none
  toValue := .row

instance : ColumnValue (List Value) where
  columnType := .list
  ofValue? | .list items => some items | _ => none
  ofNull? := none
  toValue := .list

instance : ColumnValue Value where
  columnType := .any
  ofValue? := some
  ofNull? := some .null
  toValue := id

instance {α : Type} [ColumnValue α] : ColumnValue (Option α) where
  columnType := (columnType α).asNullable
  ofValue? v := (ofValue? v).map some
  ofNull? := some none
  toValue
    | some a => toValue a
    | none => .null

end ColumnValue

def Row.get (α : Type) [ColumnValue α] (row : Row) (name : String) : Except RowError α := do
  let v ← row.lookUp name
  match if v.isNull then ColumnValue.ofNull? else ColumnValue.ofValue? v with
  | some a => .ok a
  | none => .error (.typeMismatch name v.text (ColumnValue.columnType α))

end RowQuery
