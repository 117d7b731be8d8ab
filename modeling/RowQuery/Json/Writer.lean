import RowQuery.Floating.Text
import RowQuery.Json

/-!
Writing JSON text, either without any space or spread over lines with an
indentation of two spaces. Strings escape quotes, backslashes and control
characters only, and binary numbers always show a fraction or an exponent.
-/

namespace RowQuery.Json

def escapeLetter? : Char → Option Char
  | '\"' => some '\"'
  | '\\' => some '\\'
  | '\x08' => some 'b'
  | '\x0c' => some 'f'
  | '\n' => some 'n'
  | '\r' => some 'r'
  | '\t' => some 't'
  | _ => none

def escapeChar (c : Char) : List Char :=
  match escapeLetter? c with
  | some letter => ['\\', letter]
  | none =>
    if c.toNat < 0x20 then ['\\', 'u'] ++ Text.padLeft 4 (Nat.toDigits 16 c.toNat) else [c]

def stringText (s : String) : String :=
  String.ofList ('\"' :: s.toList.flatMap escapeChar ++ ['\"'])

def booleanText (b : Bool) : String :=
  if b then "true" else "false"

/-- A binary number in a layout, or null where JSON has no notation for it. -/
def floatText {f : Format} (layout : Layout) (x : Floating f) : String :=
  if x.isFinite then x.text layout else "null"

def arrayText (parts : List String) : String :=
  "[" ++ String.intercalate "," parts ++ "]"

def objectText (parts : List String) : String :=
  "\x7b" ++ String.intercalate "," parts ++ "\x7d"

mutual

def text : Json → String
  | .null => "null"
  | .boolean b => booleanText b
  | .integer n => Text.intText n
  | .float x => floatText .doubleNumber x
  | .string s => stringText s
  | .array items => arrayText (texts items)
  | .object entries => objectText (entryTexts entries)

def texts : List Json → List String
  | [] => []
  | j :: rest => j.text :: texts rest

def entryTexts : List (String × Json) → List String
  | [] => []
  | (key, j) :: rest => (stringText key ++ ":" ++ j.text) :: entryTexts rest

end

def indentation (level : Nat) : String :=
  String.ofList (List.replicate (2 * level) ' ')

/-- Parts on lines of their own between brackets; no part leaves the brackets together. -/
def spread (level : Nat) (start finish : String) (parts : List String) : String :=
  if parts.isEmpty then start ++ finish
  else
    let lines := parts.map fun part => "\n" ++ indentation (level + 1) ++ part
    start ++ String.intercalate "," lines ++ "\n" ++ indentation level ++ finish

mutual

def prettyAt (level : Nat) : Json → String
  | .array items => spread level "[" "]" (prettyItems (level + 1) items)
  | .object entries => spread level "\x7b" "\x7d" (prettyEntries (level + 1) entries)
  | j => j.text

def prettyItems (level : Nat) : List Json → List String
  | [] => []
  | j :: rest => j.prettyAt level :: prettyItems level rest

def prettyEntries (level : Nat) : List (String × Json) → List String
  | [] => []
  | (key, j) :: rest => (stringText key ++ ": " ++ j.prettyAt level) :: prettyEntries level rest

end

def pretty (j : Json) : String :=
  j.prettyAt 0

end RowQuery.Json
