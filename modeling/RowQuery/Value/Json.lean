import RowQuery.Json.Reader
import RowQuery.Json.Writer
import RowQuery.Row

/-!
Values and JSON. Objects are read as rows and arrays as lists; integers take
the sixty-four-bit type where they fit it and are decimals beyond it. Values
without a notation of their own are written as their display text.
-/

namespace RowQuery

/-- The value of an integer: a number of sixty-four bits with sign, a decimal where only sixty-four
bits without sign hold it, and none beyond them. -/
def Json.integerValue (n : Int) : Except RowError Value :=
  if EdmType.int64.holdsInteger n then .ok (.int64 (Int64.ofInt n))
  else if 0 ≤ n ∧ n < 2 ^ 64 then .ok (.decimal (.ofInt n))
  else .error (.unsupportedShape ("number " ++ toString n))

mutual

def Json.asValue : Json → Except RowError Value
  | .null => .ok .null
  | .boolean b => .ok (.boolean b)
  | .integer n => Json.integerValue n
  | .float x => .ok (.double x)
  | .string s => .ok (.string s)
  | .array items => do
    let vs ← Json.asValues items
    return .list vs
  | .object entries => do
    let columns ← Json.asColumns entries
    return .row (.ofList columns)

def Json.asValues : List Json → Except RowError (List Value)
  | [] => .ok []
  | j :: rest => do
    let v ← j.asValue
    let vs ← Json.asValues rest
    return v :: vs

def Json.asColumns : List (String × Json) → Except RowError (List (String × Value))
  | [] => .ok []
  | (key, j) :: rest => do
    let v ← j.asValue
    let columns ← Json.asColumns rest
    return (key, v) :: columns

end

def Json.toValue (j : Json) : Value :=
  j.asValue.toOption.getD .null

def Json.toRow (j : Json) : Except RowError Row := do
  match ← j.asValue with
  | .row r => .ok r
  | v => .error (.unsupportedShape v.kindName)

def Json.ofByte (b : UInt8) : Json :=
  .integer b.toNat

mutual

/-- The JSON data of a value. The columns of rows are put into the order of their names. -/
def Value.toJson : Value → Json
  | .null => .null
  | .boolean b => .boolean b
  | .byte n => .ofByte n
  | .int16 n => .integer n.toInt
  | .int32 n => .integer n.toInt
  | .int64 n => .integer n.toInt
  | .single x => .ofDouble (x.convert .double)
  | .double x => .ofDouble x
  | .string s => .string s
  | .binary bytes => .array (bytes.map .ofByte)
  | .row (.ofColumns columns) => .ofEntries (Value.toEntries columns)
  | .list items => .array (Value.toItems items)
  | v => .string v.text

def Value.toItems : List Value → List Json
  | [] => []
  | v :: rest => v.toJson :: Value.toItems rest

def Value.toEntries : List (String × Value) → List (String × Json)
  | [] => []
  | (name, v) :: rest => (name, v.toJson) :: Value.toEntries rest

end

mutual

/-- JSON text of a value as it stands: columns keep their order, and the narrower binary numbers
the fewest digits of their own format. -/
def Value.jsonText : Value → String
  | .single x => Json.floatText .singleNumber x
  | .row (.ofColumns columns) => Json.objectText (Value.jsonEntryTexts columns)
  | .list items => Json.arrayText (Value.jsonTexts items)
  | v => v.toJson.text

def Value.jsonTexts : List Value → List String
  | [] => []
  | v :: rest => v.jsonText :: Value.jsonTexts rest

def Value.jsonEntryTexts : List (String × Value) → List String
  | [] => []
  | (name, v) :: rest =>
    (Json.stringText name ++ ":" ++ v.jsonText) :: Value.jsonEntryTexts rest

end

def Value.readJson (s : String) : Except Json.ReadError Value := do
  let j ← Json.read s
  match j.asValue with
  | .ok v => .ok v
  | .error _ => .error .wrongShape

def Row.readJson (s : String) : Except Json.ReadError Row := do
  let (j, rest) ← Json.readValue Json.depthLimit s.toList
  match j.toRow with
  | .ok row => Json.finish (row, rest)
  | .error _ => .error .wrongShape

end RowQuery
