import RowQuery.Moment
import RowQuery.Text.Blank

/-!
Reading moments from text: year, month and day, the letter T, and a time that
may end with the minute. White space may stand before any number, and digits
of the fraction beyond the ninth are skipped. Each step gives its result with
the text behind it.
-/

namespace RowQuery.Moment

def readNumber? (most : Nat) (cs : List Char) : Option (Nat × List Char) :=
  let digits := (cs.take most).takeWhile Text.isDigit
  if digits.isEmpty then none
  else some (Text.digitsValue digits, cs.drop digits.length)

def readField? (most : Nat) (cs : List Char) : Option (Nat × List Char) :=
  readNumber? most (Text.trimStart cs)

/-- A year of up to four digits, or of any length after a sign. -/
def readYear? (cs : List Char) : Option (Int × List Char) :=
  match Text.trimStart cs with
  | '-' :: rest => (readNumber? rest.length rest).map fun (n, r) => (-(n : Int), r)
  | '+' :: rest => (readNumber? rest.length rest).map fun (n, r) => ((n : Int), r)
  | rest => (readNumber? 4 rest).map fun (n, r) => ((n : Int), r)

def expect? (c : Char) : List Char → Option (List Char)
  | d :: rest => if c = d then some rest else none
  | [] => none

def readFraction? : List Char → Option (Nat × List Char)
  | '.' :: rest =>
    let digits := (rest.take 9).takeWhile Text.isDigit
    if digits.isEmpty then none
    else
      some (Text.digitsValue digits * 10 ^ (9 - digits.length), rest.dropWhile Text.isDigit)
  | cs => some (0, cs)

/-- A second with its fraction, as seconds and nanoseconds. Second 60 is the leap second. -/
def readSecond? (cs : List Char) : Option ((Nat × Nat) × List Char) := do
  let cs ← expect? ':' cs
  let (second, cs) ← readField? 2 cs
  let (nanos, cs) ← readFraction? cs
  return (if second = 60 then (59, nanosPerSecond + nanos) else (second, nanos), cs)

/-- Everything up to the minute, with second zero. -/
def readMinutes? (cs : List Char) : Option (Moment × List Char) := do
  let (year, cs) ← readYear? cs
  let cs ← expect? '-' cs
  let (month, cs) ← readField? 2 cs
  let cs ← expect? '-' cs
  let (day, cs) ← readField? 2 cs
  let cs ← expect? 'T' cs
  let (hour, cs) ← readField? 2 cs
  let cs ← expect? ':' cs
  let (minute, cs) ← readField? 2 cs
  return (⟨year, month, day, hour, minute, 0, 0⟩, cs)

def read? (s : String) : Option Moment := do
  let (m, rest) ← readMinutes? s.toList
  if rest.isEmpty then
    if m.isValid then some m else none
  else
    let ((second, nanosecond), rest) ← readSecond? rest
    let m := { m with second, nanosecond }
    if rest.isEmpty && m.isValid then some m else none

end RowQuery.Moment
