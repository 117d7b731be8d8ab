import RowQuery.EdmType

/-!
Two options of queries with few values: the direction of a sort key, and
whether the number of all matches is given with the page.
-/

namespace RowQuery

inductive Direction where
  | ascending
  | descending
deriving DecidableEq, Repr

namespace Direction

def keyword : Direction → String
  | .ascending => "asc"
  | .descending => "desc"

def parse (text : String) : Except NameError Direction :=
  match Text.asciiLower text with
  | "asc" | "ascending" => .ok .ascending
  | "desc" | "descending" => .ok .descending
  | _ => .error (.unknownDirection text)

end Direction

inductive CountMode where
  | none
  | allPages
deriving DecidableEq, Repr

namespace CountMode

def keyword : CountMode → String
  | .none => "none"
  | .allPages => "allpages"

def parse (text : String) : Except NameError CountMode :=
  match Text.asciiLower text with
  | "none" => .ok .none
  | "allpages" => .ok .allPages
  | _ => .error (.unknownCountMode text)

end CountMode

end RowQuery
