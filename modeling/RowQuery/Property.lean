import RowQuery.Row

/-!
Properties stand for typed reads of a column. A registry gives out one
property for each column type and name up to case, numbered from one in the
order of first request and spelled as first requested.
-/

namespace RowQuery

structure Property where
  ordinal : Nat
  name : String
  columnType : ColumnType
deriving DecidableEq, Repr

namespace Property

def key (p : Property) : ColumnType × String :=
  (p.columnType, columnKey p.name)

/-- Properties of different registries are equal if they stand for the same reads. -/
def equals (p q : Property) : Bool :=
  p.key == q.key

def hashInto {State : Type} (feedText : String → State → State)
    (feedType : ColumnType → State → State) (p : Property) (state : State) : State :=
  feedType p.columnType (feedText (columnKey p.name) state)

def text (p : Property) : String :=
  "Row.get<" ++ p.columnType.text ++ ">(\"" ++ p.name ++ "\")"

def valueIn (p : Property) (row : Row) : Except RowError Value :=
  row.lookUp p.name

/-- Properties are read-only: writing always fails and leaves the row as it is. -/
def write (p : Property) (_row : Row) (_value : Value) : Except RowError Row :=
  .error (.readOnly p.text)

end Property

/-- The properties given out so far, in the order of their ordinals. -/
structure Registry where
  properties : List Property
deriving DecidableEq, Repr

namespace Registry

def empty : Registry := ⟨[]⟩

def size (r : Registry) : Nat :=
  r.properties.length

def property (r : Registry) (name : String) (type : ColumnType) : Property × Registry :=
  match r.properties.find? fun p => p.key == (type, columnKey name) with
  | some p => (p, r)
  | none =>
    let p : Property := ⟨r.size + 1, name, type⟩
    (p, ⟨r.properties ++ [p]⟩)

end Registry

end RowQuery
