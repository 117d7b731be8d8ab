import RowQuery.Text.Case
import RowQuery.Text.Numeral
import RowQuery.Floating.Rounding

/-!
Reading floating-point numbers from text. The number written is rounded once,
whatever its length; the words for infinity and for no number are accepted in
any case.
-/

namespace RowQuery.Floating

inductive ReadError where
  | empty
  | invalid
deriving DecidableEq, Repr

def ReadError.message : ReadError → String
  | .empty => "cannot parse float from empty string"
  | .invalid => "invalid float literal"

def readExponent? : List Char → Option Int
  | [] => some 0
  | c :: rest =>
    if c != 'e' && c != 'E' then none
    else
      let (negative, digits) :=
        match rest with
        | '-' :: cs => (true, cs)
        | '+' :: cs => (false, cs)
        | cs => (false, cs)
      if digits.isEmpty || !digits.all Text.isDigit then none
      else some (signed negative (Text.digitsValue digits))

/-- Digits, an optional fraction and an optional exponent, as digits and a power of ten. -/
def readDecimal? (cs : List Char) : Option (List Char × Int) :=
  let whole := cs.takeWhile Text.isDigit
  let rest := cs.dropWhile Text.isDigit
  let (fraction, rest) :=
    match rest with
    | '.' :: after => (after.takeWhile Text.isDigit, after.dropWhile Text.isDigit)
    | _ => ([], rest)
  if whole.isEmpty && fraction.isEmpty then none
  else (readExponent? rest).map fun e => (whole ++ fraction, e - fraction.length)

/-- Rounds digits times a power of ten. Numbers far outside every format are decided by the
place of their leading digit. -/
def ofDecimal (f : Format) (negative : Bool) (digits : List Char) (exponent : Int) : Floating f :=
  let significant := digits.dropWhile (· == '0')
  let value := Text.digitsValue significant
  let place : Int := significant.length + exponent
  if value = 0 || place < -400 then zero negative
  else if 400 < place then infinity negative
  else ofRatio f negative (value * 10 ^ exponent.toNat) (10 ^ (-exponent).toNat)

def readWord? (f : Format) (negative : Bool) (cs : List Char) : Option (Floating f) :=
  match Text.asciiLower (String.ofList cs) with
  | "nan" => some nan
  | "inf" | "infinity" => some (infinity negative)
  | _ => none

def read (f : Format) (s : String) : Except ReadError (Floating f) :=
  let (negative, cs) :=
    match s.toList with
    | '-' :: rest => (true, rest)
    | '+' :: rest => (false, rest)
    | cs => (false, cs)
  if s.isEmpty then .error .empty
  else
    match readDecimal? cs with
    | some (digits, exponent) => .ok (ofDecimal f negative digits exponent)
    | none =>
      match readWord? f negative cs with
      | some x => .ok x
      | none => .error .invalid

end RowQuery.Floating
