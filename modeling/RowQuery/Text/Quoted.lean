import RowQuery.Text.Blank
import RowQuery.Text.PrintableTable

/-!
Two quoted forms of text. Display quoting uses double quotes and writes what
has no visible form as an escape; literal quoting uses single quotes and
writes a quote inside the text twice.
-/

namespace RowQuery.Text

def escapeLetter? : Char → Option Char
  | '\x00' => some '0'
  | '\t' => some 't'
  | '\r' => some 'r'
  | '\n' => some 'n'
  | '\\' => some '\\'
  | '\"' => some '\"'
  | _ => none

def isPlain (c : Char) : Bool :=
  !inRanges extenderRanges c && !inRanges unprintableRanges c

def escapeChar (c : Char) : List Char :=
  match escapeLetter? c with
  | some letter => ['\\', letter]
  | none =>
    if isPlain c then [c]
    else ['\\', 'u', '\x7b'] ++ Nat.toDigits 16 c.toNat ++ ['\x7d']

def displayQuoted (s : String) : String :=
  String.ofList ('\"' :: s.toList.flatMap escapeChar ++ ['\"'])

def doubleQuotes (cs : List Char) : List Char :=
  cs.flatMap fun c => if c = '\'' then ['\'', '\''] else [c]

/-- A text in single quotes, with the quotes inside it doubled. -/
def literalQuoted (s : String) : String :=
  String.ofList ('\'' :: doubleQuotes s.toList ++ ['\''])

end RowQuery.Text
