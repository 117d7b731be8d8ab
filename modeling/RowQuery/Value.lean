import RowQuery.Decimal.Basic
import RowQuery.EdmType
import RowQuery.Floating.Arithmetic
import RowQuery.Floating.Text
import RowQuery.Guid
import RowQuery.Moment
import RowQuery.Text.Hex

/-!
Values and rows. Every primitive value belongs to one static type; rows and
lists are the structured values, and a row is an ordered list of named
columns. Display text is for messages and is not read back.
-/

namespace RowQuery

mutual

inductive Value where
  | null
  | boolean (value : Bool)
  | byte (value : UInt8)
  | int16 (value : Int16)
  | int32 (value : Int32)
  | int64 (value : Int64)
  | single (value : Single)
  | double (value : Double)
  | decimal (value : Decimal)
  | dateTime (value : Moment)
  | guid (value : Guid)
  | string (value : String)
  | binary (bytes : List UInt8)
  | typeRef (value : TypeRef)
  | row (value : Row)
  | list (items : List Value)

/-- Columns in order. Rows are built so that no two names are equal up to case. -/
inductive Row where
  | ofColumns (columns : List (String × Value))

end

namespace Value

def type? : Value → Option EdmType
  | .null => none
  | .boolean _ => some .boolean
  | .byte _ => some .byte
  | .int16 _ => some .int16
  | .int32 _ => some .int32
  | .int64 _ => some .int64
  | .single _ => some .single
  | .double _ => some .double
  | .decimal _ => some .decimal
  | .dateTime _ => some .dateTime
  | .guid _ => some .guid
  | .string _ => some .string
  | .binary _ => some .binary
  | .typeRef _ => some .typeRef
  | .row _ => some .complex
  | .list _ => some .complex

def isNull : Value → Bool
  | .null => true
  | _ => false

def kindName : Value → String
  | .row _ => "row"
  | .list _ => "list"
  | v => (v.type?.map EdmType.name).getD "null"

def asBool? : Value → Option Bool
  | .boolean b => some b
  | _ => none

def asString? : Value → Option String
  | .string s => some s
  | _ => none

def asRow? : Value → Option Row
  | .row r => some r
  | _ => none

end Value

def Row.columns : Row → List (String × Value)
  | .ofColumns columns => columns

mutual

def Value.text : Value → String
  | .null => "null"
  | .boolean b => if b then "true" else "false"
  | .byte n => Text.intText n.toNat
  | .int16 n => Text.intText n.toInt
  | .int32 n => Text.intText n.toInt
  | .int64 n => Text.intText n.toInt
  | .single x => x.displayText
  | .double x => x.displayText
  | .decimal d => d.text
  | .dateTime m => m.text
  | .guid g => g.text
  | .string s => s
  | .binary bytes => Text.hexUpper bytes
  | .typeRef t => t.text
  | .row r => r.text
  | .list items => "[" ++ String.intercalate ", " (Value.texts items) ++ "]"

def Value.texts : List Value → List String
  | [] => []
  | v :: rest => v.text :: Value.texts rest

def Row.text : Row → String
  | .ofColumns columns => "\x7b" ++ String.intercalate ", " (Row.columnTexts columns) ++ "\x7d"

def Row.columnTexts : List (String × Value) → List String
  | [] => []
  | (name, v) :: rest => (name ++ ": " ++ v.text) :: Row.columnTexts rest

end

mutual

/-- Equality of values of one type. Numbers are compared as numbers, so a value that is no number
differs from itself, and decimals of different scale may be equal. -/
def Value.equals : Value → Value → Bool
  | .null, .null => true
  | .boolean a, .boolean b => a == b
  | .byte a, .byte b => a == b
  | .int16 a, .int16 b => a == b
  | .int32 a, .int32 b => a == b
  | .int64 a, .int64 b => a == b
  | .single a, .single b => a.equals b
  | .double a, .double b => a.equals b
  | .decimal a, .decimal b => a.compareWith b == .eq
  | .dateTime a, .dateTime b => a == b
  | .guid a, .guid b => a == b
  | .string a, .string b => a == b
  | .binary a, .binary b => a == b
  | .typeRef a, .typeRef b => a == b
  | .row a, .row b => a.equals b
  | .list a, .list b => Value.equalLists a b
  | _, _ => false

def Value.equalLists : List Value → List Value → Bool
  | [], [] => true
  | a :: as, b :: bs => a.equals b && Value.equalLists as bs
  | _, _ => false

/-- Rows are equal if they have the same columns in the same order, spelled alike. -/
def Row.equals : Row → Row → Bool
  | .ofColumns a, .ofColumns b => Row.equalColumns a b

def Row.equalColumns : List (String × Value) → List (String × Value) → Bool
  | [], [] => true
  | (m, a) :: as, (n, b) :: bs => m == n && a.equals b && Row.equalColumns as bs
  | _, _ => false

end

end RowQuery
