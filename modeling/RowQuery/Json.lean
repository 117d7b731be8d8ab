import RowQuery.Floating.Basic

/-!
JSON as data. Numbers without fraction and exponent are integers, all others
binary numbers; the entries of an object stand in ascending order of their
keys, each key once. Readers take what they look for from the start of a text
and report what keeps it from being JSON.
-/

namespace RowQuery

inductive Json where
  | null
  | boolean (value : Bool)
  | integer (value : Int)
  | float (value : Double)
  | string (value : String)
  | array (items : List Json)
  | object (entries : List (String × Json))

namespace Json

/-- Puts an entry at its place in ascending entries, instead of one with the same key. -/
def insertEntry (key : String) (value : Json) : List (String × Json) → List (String × Json)
  | [] => [(key, value)]
  | (k, v) :: rest =>
    if key < k then (key, value) :: (k, v) :: rest
    else if k < key then (k, v) :: insertEntry key value rest
    else (key, value) :: rest

/-- The object with the given entries, of which the last one for each key counts. -/
def ofEntries (entries : List (String × Json)) : Json :=
  .object (entries.foldl (fun sorted (key, value) => insertEntry key value sorted) [])

/-- A binary number, or null where JSON has no notation for it. -/
def ofDouble (x : Double) : Json :=
  if x.isFinite then .float x else .null

/-- Why a text is not the JSON that is wanted: something in it is wrong, it ends too early, or it
holds something else. -/
inductive ReadError where
  | malformed
  | unfinished
  | wrongShape
deriving DecidableEq, Repr

def ReadError.message : ReadError → String
  | .malformed => "the text is malformed"
  | .unfinished => "the text ends too early"
  | .wrongShape => "the text does not hold an object"

def missing (cs : List Char) : ReadError :=
  if cs.isEmpty then .unfinished else .malformed

/-- A reader gives what it finds with the text behind it. -/
abbrev Reader (α : Type) := List Char → Except ReadError (α × List Char)

end Json

end RowQuery
