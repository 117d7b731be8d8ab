import RowQuery.Floating.Basic

/-!
Rounding of a positive quotient to the nearest number of a format, ties to
the even neighbour. The last place is the finest one that both the format and
the size of the quotient allow, so one integer division decides everything.
-/

namespace RowQuery

/-- The quotient rounded to the nearest integer, ties to even. -/
def divideToEven (num den : Nat) : Nat :=
  let quotient := num / den
  match compare (2 * (num % den)) den with
  | .lt => quotient
  | .gt => quotient + 1
  | .eq => if quotient % 2 == 0 then quotient else quotient + 1

/-- The quotient rounded to the nearest integer, ties upward. -/
def divideHalfUp (num den : Nat) : Nat :=
  (2 * num + den) / (2 * den)

namespace Floating

def scaleDown (num den : Nat) (exponent : Int) : Nat × Nat :=
  (num * 2 ^ (-exponent).toNat, den * 2 ^ exponent.toNat)

/-- The exponent of the last place that leaves one digit more than the fraction field holds. -/
def lastPlace (f : Format) (num den : Nat) : Int :=
  let low : Int := (num.log2 : Int) - den.log2 - f.fractionBits - 1
  let (scaledNum, scaledDen) := scaleDown num den low
  max f.leastExponent
    (if scaledNum / scaledDen < 2 * f.fractionCount then low else low + 1)

/-- Rounds a quotient to the format. A magnitude beyond the greatest number is infinite. -/
def ofRatio (f : Format) (negative : Bool) (num den : Nat) : Floating f :=
  if num = 0 then zero negative
  else
    let place := lastPlace f num den
    let (scaledNum, scaledDen) := scaleDown num den place
    let places := (place - f.leastExponent).toNat
    let code := places * f.fractionCount + divideToEven scaledNum scaledDen
    ofCode negative (min code f.infinityCode)

def ofScaled (f : Format) (negative : Bool) (significand : Nat) (exponent : Int) : Floating f :=
  ofRatio f negative (significand * 2 ^ exponent.toNat) (2 ^ (-exponent).toNat)

def ofInt (f : Format) (n : Int) : Floating f :=
  ofRatio f (n < 0) n.natAbs 1

def ofNat (f : Format) (n : Nat) : Floating f :=
  ofRatio f false n 1

def convert {f : Format} (g : Format) (x : Floating f) : Floating g :=
  if x.isNaN then nan
  else if x.isInfinite then infinity x.negative
  else ofScaled g x.negative x.significand x.exponent

end Floating

end RowQuery
