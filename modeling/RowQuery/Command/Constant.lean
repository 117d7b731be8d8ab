import RowQuery.Decimal.Reader
import RowQuery.Floating.Reader
import RowQuery.Moment.Reader
import RowQuery.ColumnType

/-!
Constants given as text with a column type. Every primitive type has its own
reader; the word null stands for itself where the type takes it.
-/

namespace RowQuery

inductive ConstantFault where
  | boolean
  | integer (error : Text.NumeralError)
  | floating (error : Floating.ReadError)
  | binary (error : Text.HexError)
  | unspecified
deriving DecidableEq, Repr

def ConstantFault.detail : ConstantFault → String
  | .boolean => ": provided string was not `true` or `false`"
  | .integer error => ": " ++ error.message
  | .floating error => ": " ++ error.message
  | .binary error => ": " ++ error.message
  | .unspecified => ""

inductive ConstantError where
  | null (type : ColumnType)
  | notPrimitive (type : ColumnType)
  | invalid (text : String) (type : EdmType) (fault : ConstantFault)
  /-- The structured type as a primitive one, which no column type that is read has. -/
  | structured
deriving DecidableEq, Repr

def ConstantError.message : ConstantError → String
  | .null type =>
    "null is not a valid " ++ type.text ++ "; use a nullable type such as '" ++
      Text.asciiLower type.edmType.name ++ "?'"
  | .notPrimitive type => "constants of type " ++ type.text ++ " are not supported"
  | .invalid text type fault =>
    "'" ++ text ++ "' is not a valid " ++ type.name ++ fault.detail
  | .structured => "column types are never Complex primitives"

namespace Value

def readBoolean (text : String) : Except ConstantFault Value :=
  match text with
  | "true" => .ok (.boolean true)
  | "false" => .ok (.boolean false)
  | _ => .error .boolean

/-- Reads an integer of a type and gives the value that `make` makes of it. -/
def readInteger (type : EdmType) (make : Int → Value) (text : String) :
    Except ConstantFault Value :=
  match type.integerBounds? with
  | none => .error .unspecified
  | some (least, greatest) =>
    match Text.readInt least greatest text with
    | .ok n => .ok (make n)
    | .error e => .error (.integer e)

def readFloating (f : Format) (make : Floating f → Value) (text : String) :
    Except ConstantFault Value :=
  match Floating.read f text with
  | .ok x => .ok (make x)
  | .error e => .error (.floating e)

def readBinary (text : String) : Except ConstantFault Value :=
  match Text.readHex text with
  | .ok bytes => .ok (.binary bytes)
  | .error e => .error (.binary e)

def orUnspecified : Option Value → Except ConstantFault Value
  | some v => .ok v
  | none => .error .unspecified

/-- A primitive type by its name or keyword; any other text is a type by that name. -/
def readTypeRef (text : String) : Value :=
  match EdmType.parse text with
  | .ok type => if type.isPrimitive then .typeRef (.edm type) else .typeRef (.named text)
  | .error _ => .typeRef (.named text)

def readPrimitive (type : EdmType) (text : String) : Except ConstantFault Value :=
  match type with
  | .boolean => readBoolean text
  | .byte => readInteger .byte (fun n => .byte (UInt8.ofNat n.toNat)) text
  | .int16 => readInteger .int16 (fun n => .int16 (Int16.ofInt n)) text
  | .int32 => readInteger .int32 (fun n => .int32 (Int32.ofInt n)) text
  | .int64 => readInteger .int64 (fun n => .int64 (Int64.ofInt n)) text
  | .single => readFloating .single .single text
  | .double => readFloating .double .double text
  | .decimal => orUnspecified ((Decimal.read? text).map .decimal)
  | .dateTime => orUnspecified ((Moment.read? text).map .dateTime)
  | .guid => orUnspecified ((Guid.read? text).map .guid)
  | .string => .ok (.string text)
  | .binary => readBinary text
  | .typeRef => .ok (readTypeRef text)
  | .complex => .error .unspecified

def readConstant (text : String) (type : ColumnType) : Except ConstantError Value :=
  if text = "null" then
    if type.isNullable then .ok .null else .error (.null type)
  else
    match type with
    | .of (.primitive .complex) _ => .error .structured
    | .of (.primitive t) _ =>
      match readPrimitive t text with
      | .ok v => .ok v
      | .error fault => .error (.invalid text t fault)
    | _ => .error (.notPrimitive type)

end Value

end RowQuery
