import RowQuery.Decimal.Basic
import RowQuery.Floating.Rounding
import RowQuery.Text.Search

/-!
Reading decimal numbers from text: an optional sign, digits with at most one
point among them, underscores after the first digit, and an optional power of
ten behind a letter. Digits beyond the twenty-eighth place after the point are
not kept; the first of them rounds the number.
-/

namespace RowQuery.Decimal

/-- What has been read of a numeral. The place counts digits after the point, once there is one. -/
structure Numeral where
  value : Nat
  place? : Option Nat
  hasDigit : Bool

namespace Numeral

def place (n : Numeral) : Nat :=
  n.place?.getD 0

def finish? (negative : Bool) (n : Numeral) : Option Decimal :=
  if n.hasDigit then some (ofParts negative n.value n.place) else none

def withDigit (n : Numeral) (value : Nat) : Numeral :=
  ⟨value, n.place?.map (· + 1), true⟩

/-- Rounds by the first digit that is not kept. A rounding that reaches the limit gives up one
more digit. -/
def roundBy? (negative : Bool) (n : Numeral) (digit : Nat) : Option Decimal :=
  if digit < 5 then n.finish? negative
  else if n.value + 1 < coefficientLimit then finish? negative { n with value := n.value + 1 }
  else if n.place = 0 then none
  else some (ofParts negative ((n.value + 5) / 10) (n.place - 1))

/-- The least value that does not stay in one word whatever digit follows, with some room. -/
def wideValue : Nat := (2 ^ 64 - 1) / 10 - 255

def isWide (n : Numeral) : Bool :=
  wideValue ≤ n.value / 10

/-- Rounds by the characters that are not kept, which are digits and underscores. Numerals of one
word take an underscore in front of them for a zero, wider ones pass over it. -/
def roundOff? (negative : Bool) (n : Numeral) (cs : List Char) : Option Decimal :=
  if cs.all fun c => c = '_' || Text.isDigit c then
    let digits := if n.isWide then cs.dropWhile (· = '_') else cs
    n.roundBy? negative ((digits.head?.bind Text.digit?).getD 0)
  else none

def isFull (n : Numeral) : Bool :=
  n.hasDigit && n.place == scaleLimit

def read? (negative : Bool) : Numeral → List Char → Option Decimal
  | n, [] => n.finish? negative
  | n, c :: rest =>
    if n.isFull then n.roundOff? negative (c :: rest)
    else
      match Text.digit? c with
      | some d =>
        let value := n.value * 10 + d
        if value < coefficientLimit then read? negative (n.withDigit value) rest
        else if n.place?.isSome then n.roundOff? negative (c :: rest)
        else none
      | none =>
        if c = '.' && n.place?.isNone then read? negative { n with place? := some 0 } rest
        else if c = '_' && n.hasDigit then read? negative n rest
        else none

end Numeral

def readPlain? : List Char → Option Decimal
  | '-' :: rest => Numeral.read? true ⟨0, none, false⟩ rest
  | '+' :: rest => Numeral.read? false ⟨0, none, false⟩ rest
  | cs => Numeral.read? false ⟨0, none, false⟩ cs

/-- Multiplies by `10 ^ n`. The places after the point are used up before the coefficient grows,
and a number that grows has none left. -/
def scaleUp? (d : Decimal) (n : Nat) : Option Decimal :=
  let grown := d.coefficient * 10 ^ (n - d.scale)
  if n ≤ d.scale then some { d with scale := d.scale - n }
  else if grown < coefficientLimit then some (ofParts d.negative grown 0)
  else none

/-- Divides by `10 ^ n`, for an `n` no greater than the largest scale. Places beyond that scale
are rounded off, halves upward, and the sign stays even if nothing else does. -/
def scaleDown (d : Decimal) (n : Nat) : Decimal :=
  if d.scale + n ≤ scaleLimit then { d with scale := d.scale + n }
  else ⟨d.negative, divideHalfUp d.coefficient (10 ^ (d.scale + n - scaleLimit)), scaleLimit⟩

def readPower? (cs : List Char) : Option Nat :=
  match Text.readInt 0 scaleLimit (String.ofList cs) with
  | .ok n => some n.toNat
  | .error _ => none

/-- Multiplies by the power of ten that a text behind the letter gives. A minus sign may precede
what is otherwise a numeral with a sign of its own. -/
def applyPower? (d : Decimal) : List Char → Option Decimal
  | '-' :: rest => (readPower? rest).map d.scaleDown
  | cs => (readPower? cs).bind d.scaleUp?

def isPowerLetter (c : Char) : Bool :=
  c = 'e' || c = 'E'

def read? (s : String) : Option Decimal :=
  match Text.splitFirstWhere? isPowerLetter s.toList with
  | none => readPlain? s.toList
  | some (number, power) => (readPlain? number).bind fun d => d.applyPower? power

end RowQuery.Decimal
