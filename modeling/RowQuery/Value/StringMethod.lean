import RowQuery.EvalError
import RowQuery.Text.Case
import RowQuery.Text.Search

/-!
The methods of strings that expressions can call by name. Positions and
lengths count characters; methods that need no argument disregard the ones
they are given.
-/

namespace RowQuery

inductive StringMethod where
  | startsWith
  | endsWith
  | contains
  | toLower
  | toUpper
  | trim
  | length
  | indexOf
deriving DecidableEq, Repr

namespace StringMethod

/-- The method of a name, up to the case of ASCII letters. -/
def ofName? (name : String) : Option StringMethod :=
  match Text.asciiLower name with
  | "startswith" => some .startsWith
  | "endswith" => some .endsWith
  | "contains" => some .contains
  | "tolower" => some .toLower
  | "toupper" => some .toUpper
  | "trim" => some .trim
  | "length" => some .length
  | "indexof" => some .indexOf
  | _ => none

def countValue (n : Nat) : Except EvalError Value :=
  if EdmType.int32.holdsInteger n then .ok (.int32 (Int32.ofInt n))
  else .error (.type .lengthTooLarge)

def stringArgument (name : String) : List Value → Except EvalError String
  | [.string s] => .ok s
  | _ => .error (.type (.stringArgument name))

def apply (m : StringMethod) (name text : String) (args : List Value) : Except EvalError Value :=
  match m with
  | .startsWith => do return .boolean (Text.startsWith text (← stringArgument name args))
  | .endsWith => do return .boolean (Text.endsWith text (← stringArgument name args))
  | .contains => do return .boolean (Text.contains text (← stringArgument name args))
  | .toLower => .ok (.string (Text.lower text))
  | .toUpper => .ok (.string (Text.upper text))
  | .trim => .ok (.string (Text.trimmed text))
  | .length => countValue text.length
  | .indexOf => do
    match Text.indexOf? text (← stringArgument name args) with
    | some n => countValue n
    | none => return .int32 (-1)

end StringMethod

def Value.callMethod (receiver : Value) (name : String) (args : List Value) :
    Except EvalError Value :=
  match receiver, StringMethod.ofName? name with
  | .string text, some m => m.apply name text args
  | .string _, none => .error (.type (.unknownMethod name))
  | _, _ => .error (.type (.notString name receiver.kindName))

end RowQuery
