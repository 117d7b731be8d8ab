import RowQuery.Text.Blank
import RowQuery.Text.CaseTable

/-!
Letter case. The full mappings work on whole texts: one letter may become
several, and a capital sigma at the end of a word has a form of its own. The
ASCII mappings serve keywords and change no other letter.
-/

namespace RowQuery.Text

/-- Keywords are compared after this mapping, which changes ASCII letters only. -/
def asciiLower (s : String) : String :=
  s.map Char.toLower

def equalIgnoringAsciiCase (s t : String) : Bool :=
  asciiLower s == asciiLower t

def mapCase (sequences : List (Nat × List Nat)) (runs : List CaseRun) (c : Char) : List Char :=
  match sequences.lookup c.toNat with
  | some codes => codes.map Char.ofNat
  | none =>
    match runs.findSome? fun run => run.map? c.toNat with
    | some code => [Char.ofNat code]
    | none => [c]

def lowerChar (c : Char) : List Char :=
  if c.toNat < 0x80 then [c.toLower] else mapCase lowerSequences lowerRuns c

def upperChar (c : Char) : List Char :=
  if c.toNat < 0x80 then [c.toUpper] else mapCase upperSequences upperRuns c

/-- Whether a cased letter comes first once the characters that words may contain are skipped. -/
def casedNext (cs : List Char) : Bool :=
  match cs.dropWhile (inRanges caseIgnorableRanges) with
  | c :: _ => inRanges casedRanges c
  | [] => false

/-- The lower case of a capital sigma between the reversed text before it and the text after it:
the final form stands after a letter and before none. -/
def lowerSigma (before after : List Char) : Char :=
  if casedNext before && !casedNext after then 'ς' else 'σ'

/-- The lower case of the text that follows `before`, which is kept in reverse. -/
def lowerFrom : List Char → List Char → List Char
  | _, [] => []
  | before, c :: after =>
    (if c = 'Σ' then [lowerSigma before after] else lowerChar c) ++ lowerFrom (c :: before) after

def lower (s : String) : String :=
  String.ofList (lowerFrom [] s.toList)

def upper (s : String) : String :=
  String.ofList (s.toList.flatMap upperChar)

end RowQuery.Text
