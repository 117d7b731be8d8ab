import RowQuery.ColumnType

/-!
Rows as maps from names to values. Names are compared up to case; a row keeps
the position of the first of several equal names with the spelling and value
of the last.
-/

namespace RowQuery

inductive RowError where
  | missingColumn (column : String)
  | typeMismatch (column actual : String) (expected : ColumnType)
  | readOnly (property : String)
  | unsupportedShape (shape : String)
deriving DecidableEq, Repr

def RowError.message : RowError → String
  | .missingColumn column =>
    "the row does not contain a value for column '" ++ column ++ "'"
  | .typeMismatch column actual expected =>
    "value '" ++ actual ++ "' for column '" ++ column ++ "' is not of type " ++ expected.text
  | .readOnly property => property ++ " is read-only"
  | .unsupportedShape shape => "cannot convert " ++ shape ++ " into a row value"

/-- What remains of a column name when case does not matter. -/
def columnKey (name : String) : String :=
  Text.lower name

namespace Row

def empty : Row := .ofColumns []

/-- Writes a column in the place of one with the same key, or after all others. -/
def putColumn (name : String) (value : Value) : List (String × Value) → List (String × Value)
  | [] => [(name, value)]
  | (n, v) :: rest =>
    if columnKey n = columnKey name then (name, value) :: rest
    else (n, v) :: putColumn name value rest

def ofList (pairs : List (String × Value)) : Row :=
  .ofColumns (pairs.foldl (fun columns (name, value) => putColumn name value columns) [])

def position? (row : Row) (name : String) : Option Nat :=
  row.columns.findIdx? fun (n, _) => columnKey n == columnKey name

def value? (row : Row) (name : String) : Option Value :=
  (row.position? name).bind fun i => row.columns[i]?.map Prod.snd

def contains (row : Row) (name : String) : Bool :=
  (row.position? name).isSome

def lookUp (row : Row) (name : String) : Except RowError Value :=
  match row.value? name with
  | some v => .ok v
  | none => .error (.missingColumn name)

def getAs (row : Row) (name : String) (type : ColumnType) : Except RowError Value := do
  let v ← row.lookUp name
  if type.accepts v then .ok v else .error (.typeMismatch name v.text type)

end Row

end RowQuery
