import RowQuery.Text.Case
import RowQuery.Text.Numeral
import RowQuery.Text.Search

/-!
The static types of the entity data model: the primitive types, the type of
types, and the type of everything structured. Numeric types widen implicitly
along a fixed order, in which decimals and floating-point numbers do not meet.
A word that names no type, function or option is repeated in the message.
-/

namespace RowQuery

inductive NameError where
  | unknownType (text : String)
  | notColumnType (text : String)
  | unknownFunction (text : String)
  | unknownDirection (text : String)
  | unknownCountMode (text : String)
deriving DecidableEq, Repr

def NameError.message : NameError → String
  | .unknownType text => "unknown type '" ++ text ++ "'"
  | .notColumnType text => "'" ++ text ++ "' is not a column type"
  | .unknownFunction text => "unknown function '" ++ text ++ "'"
  | .unknownDirection text => "unknown sort direction '" ++ text ++ "'"
  | .unknownCountMode text => "unknown inline count mode '" ++ text ++ "'"

inductive EdmType where
  | binary
  | boolean
  | byte
  | dateTime
  | decimal
  | double
  | guid
  | int16
  | int32
  | int64
  | single
  | string
  | typeRef
  | complex
deriving DecidableEq, Hashable, Repr

namespace EdmType

def all : List EdmType :=
  [.binary, .boolean, .byte, .dateTime, .decimal, .double, .guid, .int16, .int32, .int64, .single,
    .string, .typeRef, .complex]

def isPrimitive : EdmType → Bool
  | .typeRef | .complex => false
  | _ => true

def isNumeric : EdmType → Bool
  | .byte | .int16 | .int32 | .int64 | .single | .double | .decimal => true
  | _ => false

def name : EdmType → String
  | .binary => "Binary"
  | .boolean => "Boolean"
  | .byte => "Byte"
  | .dateTime => "DateTime"
  | .decimal => "Decimal"
  | .double => "Double"
  | .guid => "Guid"
  | .int16 => "Int16"
  | .int32 => "Int32"
  | .int64 => "Int64"
  | .single => "Single"
  | .string => "String"
  | .typeRef => "Type"
  | .complex => "Complex"

def keyword? (t : EdmType) : Option String :=
  if t.isPrimitive then some ("Edm." ++ t.name) else none

/-- The types to which a type widens, itself apart. -/
def wider : EdmType → List EdmType
  | .byte => [.int16, .int32, .int64, .single, .double, .decimal]
  | .int16 => [.int32, .int64, .single, .double, .decimal]
  | .int32 => [.int64, .single, .double, .decimal]
  | .int64 => [.single, .double, .decimal]
  | .single => [.double]
  | _ => []

/-- Whether a value of the type can stand in for the target without a cast. -/
def widensTo (t target : EdmType) : Bool :=
  t == target || t.wider.contains target

def integerBounds? : EdmType → Option (Int × Int)
  | .byte => some (0, 2 ^ 8 - 1)
  | .int16 => some (-2 ^ 15, 2 ^ 15 - 1)
  | .int32 => some (-2 ^ 31, 2 ^ 31 - 1)
  | .int64 => some (-2 ^ 63, 2 ^ 63 - 1)
  | _ => none

def holdsInteger (t : EdmType) (n : Int) : Bool :=
  match t.integerBounds? with
  | some (least, greatest) => least ≤ n && n ≤ greatest
  | none => false

/-- Reads a bare name or a keyword. Case does not matter, except inside the keyword's first part,
which has two spellings. -/
def parse (text : String) : Except NameError EdmType :=
  let trimmed := Text.trimmed text
  let bare :=
    if Text.startsWith trimmed "Edm." || Text.startsWith trimmed "edm." then
      Text.dropStart 4 trimmed
    else trimmed
  match all.find? fun t => Text.equalIgnoringAsciiCase t.name bare with
  | some t => .ok t
  | none => .error (.unknownType text)

end EdmType

inductive TypeRef where
  | edm (type : EdmType)
  | named (name : String)
deriving DecidableEq, Repr

namespace TypeRef

def text : TypeRef → String
  | .edm t => t.keyword?.getD t.name
  | .named name => name

def literal : TypeRef → String
  | .edm t => t.keyword?.getD ("'" ++ t.name ++ "'")
  | .named name => "'" ++ name ++ "'"

end TypeRef

end RowQuery
