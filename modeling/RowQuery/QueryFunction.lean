import RowQuery.EdmType

/-!
The functions that query text can call. Case does not matter when their names
are read.
-/

namespace RowQuery

inductive QueryFunction where
  | substringOf
  | endsWith
  | startsWith
  | length
  | indexOf
  | replace
  | substring
  | toLower
  | toUpper
  | trim
  | concat
  | year
  | month
  | day
  | hour
  | minute
  | second
  | round
  | floor
  | ceiling
  | isOf
  | cast
deriving DecidableEq, Repr

namespace QueryFunction

def all : List QueryFunction :=
  [.substringOf, .endsWith, .startsWith, .length, .indexOf, .replace, .substring, .toLower,
    .toUpper, .trim, .concat, .year, .month, .day, .hour, .minute, .second, .round, .floor,
    .ceiling, .isOf, .cast]

def keyword : QueryFunction → String
  | .substringOf => "substringof"
  | .endsWith => "endswith"
  | .startsWith => "startswith"
  | .length => "length"
  | .indexOf => "indexof"
  | .replace => "replace"
  | .substring => "substring"
  | .toLower => "tolower"
  | .toUpper => "toupper"
  | .trim => "trim"
  | .concat => "concat"
  | .year => "year"
  | .month => "month"
  | .day => "day"
  | .hour => "hour"
  | .minute => "minute"
  | .second => "second"
  | .round => "round"
  | .floor => "floor"
  | .ceiling => "ceiling"
  | .isOf => "isof"
  | .cast => "cast"

def parse (text : String) : Except NameError QueryFunction :=
  match all.find? fun f => Text.equalIgnoringAsciiCase f.keyword text with
  | some f => .ok f
  | none => .error (.unknownFunction text)

end QueryFunction

end RowQuery
