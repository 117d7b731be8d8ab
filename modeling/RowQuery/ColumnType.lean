import RowQuery.Value

/-!
The type of a column read: what kind of value it gives and whether null may
stand for it. An untyped read gives any value, null included.
-/

namespace RowQuery

inductive ColumnKind where
  | primitive (type : EdmType)
  | row
  | list
deriving DecidableEq, Hashable, Repr

inductive ColumnType where
  | of (kind : ColumnKind) (nullable : Bool)
  | any
deriving DecidableEq, Hashable, Repr

namespace ColumnType

def ofEdm (type : EdmType) : ColumnType :=
  .of (.primitive type) false

def boolean : ColumnType := .ofEdm .boolean

def string : ColumnType := .ofEdm .string

def row : ColumnType := .of .row false

def list : ColumnType := .of .list false

def isNullable : ColumnType → Bool
  | .of _ nullable => nullable
  | .any => true

def asNullable : ColumnType → ColumnType
  | .of kind _ => .of kind true
  | .any => .any

/-- The same kind of value without null. Any value remains any value. -/
def asNonNullable : ColumnType → ColumnType
  | .of kind _ => .of kind false
  | .any => .any

def edmType : ColumnType → EdmType
  | .of (.primitive type) _ => type
  | _ => .complex

def accepts : ColumnType → Value → Bool
  | c, .null => c.isNullable
  | .any, _ => true
  | .of .row _, .row _ => true
  | .of .list _, .list _ => true
  | .of (.primitive type) _, v => type != .complex && v.type? == some type
  | _, _ => false

def kindText : ColumnKind → String
  | .primitive type => type.name
  | .row => "Row"
  | .list => "List"

def text : ColumnType → String
  | .of kind false => kindText kind
  | .of kind true => "Option<" ++ kindText kind ++ ">"
  | .any => "Value"

/-- Reads a type without its mark for null; `text` is what messages repeat. -/
def parseKind (base text : String) : Except NameError ColumnType :=
  match Text.asciiLower base with
  | "row" => .ok .row
  | "list" => .ok .list
  | "any" | "value" => .ok .any
  | _ =>
    match EdmType.parse base with
    | .error e => .error e
    | .ok .complex => .error (.notColumnType text)
    | .ok type => .ok (.ofEdm type)

/-- Reads a type; a question mark at the end makes it nullable. -/
def parse (text : String) : Except NameError ColumnType :=
  let cs := Text.trim text.toList
  if cs.getLast? == some '?' then
    (parseKind (String.ofList cs.dropLast) text).map asNullable
  else parseKind (String.ofList cs) text

end ColumnType

end RowQuery
