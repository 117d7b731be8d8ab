/-!
Occurrences of one text in another. Positions count characters from the
start, and the empty text occurs at the start of every text. A text can also be
cut at a separating character, which belongs to none of the pieces.
-/

namespace RowQuery.Text

/-- The least position at which `part` occurs. -/
def position? (part : List Char) : List Char → Option Nat
  | [] => if part.isEmpty then some 0 else none
  | c :: rest =>
    if part.isPrefixOf (c :: rest) then some 0 else (position? part rest).map (· + 1)

def startsWith (text part : String) : Bool :=
  part.toList.isPrefixOf text.toList

def endsWith (text part : String) : Bool :=
  part.toList.isSuffixOf text.toList

def dropStart (count : Nat) (text : String) : String :=
  String.ofList (text.toList.drop count)

def indexOf? (text part : String) : Option Nat :=
  position? part.toList text.toList

def contains (text part : String) : Bool :=
  (indexOf? text part).isSome

/-- The pieces between all separators. A text without any is one piece. -/
def splitAll (separator : Char) : List Char → List (List Char)
  | [] => [[]]
  | c :: rest =>
    if c = separator then [] :: splitAll separator rest
    else
      match splitAll separator rest with
      | [] => [[c]]
      | first :: others => (c :: first) :: others

def splitFirstWhere? (p : Char → Bool) : List Char → Option (List Char × List Char)
  | [] => none
  | c :: rest =>
    if p c then some ([], rest)
    else (splitFirstWhere? p rest).map fun (before, after) => (c :: before, after)

def splitFirst? (separator : Char) (cs : List Char) : Option (List Char × List Char) :=
  splitFirstWhere? (· = separator) cs

end RowQuery.Text
