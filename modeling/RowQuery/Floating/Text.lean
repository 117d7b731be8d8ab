import RowQuery.Text.Numeral
import RowQuery.Floating.Shortest

/-!
Texts of floating-point numbers. A layout fixes where the positional form
ends and how whole numbers end; the digits are the shortest ones. Display
text is always positional, and number text switches to an exponent.
-/

namespace RowQuery

structure Layout where
  /-- The choice between two equally near decimals. -/
  tie : Tie
  /-- Whole numbers end in a point and a zero. -/
  pointZero : Bool
  /-- The exponents of the leading digit that are written positionally; all of them if absent. -/
  positional : Option (Int × Int)

namespace Layout

/-- Display text writes every number in full. -/
def display : Layout := ⟨.upward, false, none⟩

/-- Number text of the wider format is positional from `1e-5` up to sixteen digits. -/
def doubleNumber : Layout := ⟨.toEven, true, some (-5, 15)⟩

/-- Number text of the narrower format is positional from `1e-6` up to thirteen digits. -/
def singleNumber : Layout := ⟨.toEven, true, some (-6, 12)⟩

/-- Writes digits in full, with `point` of them before the point. -/
def inFull (layout : Layout) (digits : List Char) (point : Int) : List Char :=
  if point ≤ 0 then
    ['0', '.'] ++ List.replicate (-point).toNat '0' ++ digits
  else if digits.length ≤ point then
    digits ++ List.replicate (point.toNat - digits.length) '0' ++
      (if layout.pointZero then ['.', '0'] else [])
  else
    digits.take point.toNat ++ '.' :: digits.drop point.toNat

def withExponent (digits : List Char) (exponent : Int) : List Char :=
  let sign := if exponent < 0 then '-' else '+'
  let mantissa :=
    match digits with
    | [] => []
    | [d] => [d]
    | d :: rest => d :: '.' :: rest
  mantissa ++ 'e' :: sign :: Text.natDigits exponent.natAbs

def magnitude (layout : Layout) (d : Digits) : List Char :=
  let all := Text.natDigits d.value
  let point : Int := all.length + d.exponent
  let digits :=
    if d.value = 0 then ['0'] else (all.reverse.dropWhile (· == '0')).reverse
  match layout.positional with
  | none => layout.inFull digits point
  | some (least, greatest) =>
    if d.value = 0 || (least ≤ point - 1 && point - 1 ≤ greatest) then layout.inFull digits point
    else withExponent digits (point - 1)

end Layout

namespace Floating

variable {f : Format}

def signText (negative : Bool) : List Char :=
  if negative then ['-'] else []

def text (layout : Layout) (x : Floating f) : String :=
  String.ofList (signText x.negative ++ layout.magnitude (shortest layout.tie x))

def displayText (x : Floating f) : String :=
  if x.isNaN then "NaN"
  else if x.isInfinite then (if x.negative then "-inf" else "inf")
  else text .display x

end Floating

end RowQuery
