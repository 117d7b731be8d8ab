import RowQuery.Row.Reading

/-!
Two ways to say as what type a column is read: by a type of the library and by a
column type. A type takes exactly the values that its column type accepts, and
what it makes of one is that value again, so both ways give the same value or the
same error. Optional types are taken care of by induction, however deep they are.
-/

namespace RowQuery

inductive ReadType where
  | boolean | byte | int16 | int32 | int64 | single | double | decimal | dateTime | guid
  | string | binary | typeRef | row | list | value
  | optional (base : ReadType)
deriving DecidableEq, Repr

namespace ReadType

def Carrier : ReadType → Type
  | .boolean => Bool
  | .byte => UInt8
  | .int16 => Int16
  | .int32 => Int32
  | .int64 => Int64
  | .single => Single
  | .double => Double
  | .decimal => Decimal
  | .dateTime => Moment
  | .guid => Guid
  | .string => String
  | .binary => List UInt8
  | .typeRef => TypeRef
  | .row => Row
  | .list => List Value
  | .value => Value
  | .optional base => Option base.Carrier

instance columnValue : (t : ReadType) → ColumnValue t.Carrier
  | .boolean => inferInstanceAs (ColumnValue Bool)
  | .byte => inferInstanceAs (ColumnValue UInt8)
  | .int16 => inferInstanceAs (ColumnValue Int16)
  | .int32 => inferInstanceAs (ColumnValue Int32)
  | .int64 => inferInstanceAs (ColumnValue Int64)
  | .single => inferInstanceAs (ColumnValue Single)
  | .double => inferInstanceAs (ColumnValue Double)
  | .decimal => inferInstanceAs (ColumnValue Decimal)
  | .dateTime => inferInstanceAs (ColumnValue Moment)
  | .guid => inferInstanceAs (ColumnValue Guid)
  | .string => inferInstanceAs (ColumnValue String)
  | .binary => inferInstanceAs (ColumnValue (List UInt8))
  | .typeRef => inferInstanceAs (ColumnValue TypeRef)
  | .row => inferInstanceAs (ColumnValue Row)
  | .list => inferInstanceAs (ColumnValue (List Value))
  | .value => inferInstanceAs (ColumnValue Value)
  | .optional base =>
    letI := columnValue base
    inferInstanceAs (ColumnValue (Option base.Carrier))

end ReadType

theorem ColumnType.accepts_asNullable (type : ColumnType) (v : Value) :
    type.asNullable.accepts v = (v.isNull || type.accepts v) := by
  cases type with
  | any => cases v <;> rfl
  | of kind nullable => cases kind <;> cases v <;> rfl

namespace ColumnValue

variable {α : Type} [ColumnValue α]

def read? (α : Type) [ColumnValue α] (v : Value) : Option α :=
  if v.isNull then ofNull? else ofValue? v

/-- The type takes exactly the values that its column type accepts, and each of them as it is. -/
def Faithful (α : Type) [ColumnValue α] : Prop :=
  ∀ v, (read? α v).map toValue = if (columnType α).accepts v then some v else none

theorem faithful_option (h : Faithful α) : Faithful (Option α) := by
  intro v
  have hv := h v
  have haccepts : (columnType (Option α)).accepts v = (v.isNull || (columnType α).accepts v) :=
    ColumnType.accepts_asNullable ..
  by_cases hnull : v.isNull = true
  · cases v <;> simp only [Value.isNull, Bool.false_eq_true] at hnull
    rw [haccepts]
    rfl
  · rw [Bool.not_eq_true] at hnull
    rw [haccepts, hnull, Bool.false_or, ← hv, read?, read?, hnull]
    exact Option.map_map ..

end ColumnValue

open ColumnValue

/-- Every type that rows can be read as is faithful, options of options included. -/
theorem ReadType.faithful (t : ReadType) : Faithful t.Carrier := by
  induction t with
  | optional base ih => exact faithful_option ih
  | boolean | byte | int16 | int32 | int64 | single | double | decimal | dateTime | guid | string
  | binary | typeRef | row | list | value =>
    intro v
    cases v <;> rfl

/-- A typed read gives what the read by the type of the column gives. -/
theorem Row.get_of_faithful {α : Type} [ColumnValue α] (h : Faithful α) (row : Row)
    (name : String) : (row.get α name).map toValue = row.getAs name (columnType α) := by
  cases hv : row.lookUp name with
  | error x => simp only [Row.get, Row.getAs, hv]; rfl
  | ok v =>
    have hread := h v
    have hget : row.get α name =
        (read? α v).elim (.error (.typeMismatch name v.text (columnType α))) .ok := by
      have hmatched : (if v.isNull then ofNull? else ofValue? v) = read? α v := rfl
      simp only [Row.get, hv, bind, Except.bind, hmatched]
      cases read? α v <;> rfl
    have hgetAs : row.getAs name (columnType α) = if (columnType α).accepts v then .ok v
        else .error (.typeMismatch name v.text (columnType α)) := by
      simp only [Row.getAs, hv]
      rfl
    rw [hget, hgetAs]
    by_cases haccepts : (columnType α).accepts v = true
    · rw [if_pos haccepts, Option.map_eq_some_iff] at hread
      obtain ⟨a, ha, hav⟩ := hread
      rw [ha, if_pos haccepts, ← hav]
      rfl
    · rw [if_neg haccepts, Option.map_eq_none_iff] at hread
      rw [hread, if_neg haccepts]
      rfl

/-- Reading a column as a type of the library, and taking the result as a value again, is reading it
as the column type of that type: both give the same value, or both the same error. -/
theorem Row.map_toValue_get (t : ReadType) (row : Row) (name : String) :
    (row.get t.Carrier name).map toValue = row.getAs name (columnType t.Carrier) :=
  row.get_of_faithful t.faithful name

end RowQuery
