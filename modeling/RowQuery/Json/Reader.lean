import RowQuery.Json.Number
import RowQuery.Text.Hex

/-!
Reading JSON text. Texts are read from left to right and the first fault
decides; values nest up to a fixed depth, which the recursion follows.
-/

namespace RowQuery.Json

def isSpace (c : Char) : Bool :=
  c = ' ' || c = '\n' || c = '\t' || c = '\r'

def skipSpace (cs : List Char) : List Char :=
  cs.dropWhile isSpace

def expect : List Char → List Char → Except ReadError (List Char)
  | [], cs => .ok cs
  | c :: word, cs =>
    match cs with
    | [] => .error .unfinished
    | d :: rest => if c = d then expect word rest else .error .malformed

def readWord (word : String) (value : Json) : Reader Json := fun cs => do
  let rest ← expect word.toList cs
  return (value, rest)

/-- Four digits of a code. A text with fewer than four bytes left ends too early. -/
def readCode : Reader Nat := fun cs =>
  let four := cs.take 4
  if four.foldl (fun n c => n + c.utf8Size) 0 < 4 then .error .unfinished
  else
    match four.mapM Text.hexDigit? with
    | some digits => .ok (digits.foldl (fun n d => n * 16 + d) 0, cs.drop 4)
    | none => .error .malformed

/-- A character given by its code, or by two codes where one does not reach. -/
def readCodedChar : Reader Char := fun cs => do
  let (high, rest) ← readCode cs
  if 0xDC00 ≤ high && high ≤ 0xDFFF then throw .malformed
  if high < 0xD800 || 0xDBFF < high then return (Char.ofNat high, rest)
  let rest ← expect ['\\', 'u'] rest
  let (low, rest) ← readCode rest
  if low < 0xDC00 || 0xDFFF < low then throw .malformed
  return (Char.ofNat ((high - 0xD800) * 0x400 + (low - 0xDC00) + 0x10000), rest)

def escapedChar? : Char → Option Char
  | '\"' => some '\"'
  | '\\' => some '\\'
  | '/' => some '/'
  | 'b' => some '\x08'
  | 'f' => some '\x0c'
  | 'n' => some '\n'
  | 'r' => some '\r'
  | 't' => some '\t'
  | _ => none

def readEscape : Reader Char
  | [] => .error .unfinished
  | 'u' :: rest => readCodedChar rest
  | c :: rest =>
    match escapedChar? c with
    | some d => .ok (d, rest)
    | none => .error .malformed

def readChars : Nat → Reader (List Char)
  | 0, _ => .error .unfinished
  | _, [] => .error .unfinished
  | most + 1, c :: rest => do
    if c = '\"' then return ([], rest)
    let (d, rest) ←
      if c = '\\' then readEscape rest
      else if c.toNat < 0x20 then .error .malformed
      else .ok (c, rest)
    let (more, rest) ← readChars most rest
    return (d :: more, rest)

def readString : Reader String := fun cs => do
  let (chars, rest) ← readChars (cs.length + 1) cs
  return (String.ofList chars, rest)

def readItems {α : Type} (item : Reader α) (close : Char) : Nat → Reader (List α)
  | 0, _ => .error .unfinished
  | most + 1, cs => do
    let (first, rest) ← item cs
    match skipSpace rest with
    | [] => .error .unfinished
    | c :: rest =>
      if c = close then return ([first], rest)
      if c != ',' then throw .malformed
      let (more, rest) ← readItems item close most rest
      return (first :: more, rest)

def readGroup {α : Type} (item : Reader α) (close : Char) : Reader (List α) := fun cs =>
  match skipSpace cs with
  | [] => .error .unfinished
  | c :: rest =>
    if c = close then .ok ([], rest) else readItems item close (cs.length + 1) (c :: rest)

def readEntry (value : Reader Json) : Reader (String × Json) := fun cs => do
  let rest ← expect ['\"'] (skipSpace cs)
  let (key, rest) ← readString rest
  let rest ← expect [':'] (skipSpace rest)
  let (v, rest) ← value rest
  return ((key, v), rest)

def readScalar : Reader Json := fun cs =>
  match cs with
  | [] => .error .unfinished
  | 'n' :: _ => readWord "null" .null cs
  | 't' :: _ => readWord "true" (.boolean true) cs
  | 'f' :: _ => readWord "false" (.boolean false) cs
  | '\"' :: rest => do
    let (s, rest) ← readString rest
    return (.string s, rest)
  | '-' :: rest => readNumber true rest
  | c :: _ => if Text.isDigit c then readNumber false cs else .error .malformed

def readValue (depth : Nat) : Reader Json := fun cs =>
  match depth, skipSpace cs with
  | 0, '[' :: _ | 0, '\x7b' :: _ => .error .malformed
  | depth + 1, '[' :: rest => do
    let (items, rest) ← readGroup (readValue depth) ']' rest
    return (.array items, rest)
  | depth + 1, '\x7b' :: rest => do
    let (entries, rest) ← readGroup (readEntry (readValue depth)) '\x7d' rest
    return (ofEntries entries, rest)
  | _, rest => readScalar rest

/-- The number of brackets that may be open at once. -/
def depthLimit : Nat := 127

/-- Checks that nothing but space is left, and gives the value found before. -/
def finish {α : Type} (found : α × List Char) : Except ReadError α :=
  if (skipSpace found.2).isEmpty then .ok found.1 else .error .malformed

def read (s : String) : Except ReadError Json := do
  finish (← readValue depthLimit s.toList)

end RowQuery.Json
