/-!
Decimal numerals. Writing pads on the left with zeros where a field has a
fixed width; reading an integer of a bounded type reports the first thing
that is wrong with the text, from left to right.
-/

namespace RowQuery

/-- Powers are those of the core library also where Mathlib is imported, which has others for every
monoid. The proofs need this, since they are about definitions made without Mathlib. The instance is
scoped; the default decides for numerals in the exponent and cannot be. -/
@[default_instance 20000]
scoped instance (priority := 20000) instPow {α : Type} [NatPow α] : Pow α Nat := instPowNat

namespace Text

def natDigits (n : Nat) : List Char :=
  Nat.toDigits 10 n

def intDigits (n : Int) : List Char :=
  if n < 0 then '-' :: natDigits n.natAbs else natDigits n.natAbs

def intText (n : Int) : String :=
  String.ofList (intDigits n)

def padLeft (width : Nat) (cs : List Char) : List Char :=
  List.replicate (width - cs.length) '0' ++ cs

def padded (width n : Nat) : List Char :=
  padLeft width (natDigits n)

def digit? (c : Char) : Option Nat :=
  if '0' ≤ c && c ≤ '9' then some (c.toNat - '0'.toNat) else none

def isDigit (c : Char) : Bool :=
  (digit? c).isSome

/-- The number written by a list of digits; other characters count as zero. -/
def digitsValue (cs : List Char) : Nat :=
  cs.foldl (fun n c => n * 10 + (digit? c).getD 0) 0

inductive NumeralError where
  | empty
  | invalidDigit
  | tooLarge
  | tooSmall
deriving DecidableEq, Repr

def NumeralError.message : NumeralError → String
  | .empty => "cannot parse integer from empty string"
  | .invalidDigit => "invalid digit found in string"
  | .tooLarge => "number too large to fit in target type"
  | .tooSmall => "number too small to fit in target type"

/-- Reads the remaining digits of an integer between `least` and `greatest`. Every prefix has to
stay in range, so the first excess decides before later characters are looked at. -/
def readDigits (least greatest : Int) (negative : Bool) :
    Int → List Char → Except NumeralError Int
  | n, [] => .ok n
  | n, c :: rest =>
    match digit? c with
    | none => .error .invalidDigit
    | some d =>
      let next := if negative then n * 10 - d else n * 10 + d
      if next < least then .error .tooSmall
      else if greatest < next then .error .tooLarge
      else readDigits least greatest negative next rest

/-- Reads an integer between `least` and `greatest`. A plus sign may stand in front, and a minus
sign where the range has negative numbers. -/
def readInt (least greatest : Int) (s : String) : Except NumeralError Int :=
  match s.toList with
  | [] => .error .empty
  | ['+'] | ['-'] => .error .invalidDigit
  | '+' :: rest => readDigits least greatest false 0 rest
  | '-' :: rest =>
    if least < 0 then readDigits least greatest true 0 rest else .error .invalidDigit
  | cs => readDigits least greatest false 0 cs

end Text

end RowQuery
