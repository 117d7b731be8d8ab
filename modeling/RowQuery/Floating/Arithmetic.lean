import RowQuery.Floating.Rounding

/-!
Arithmetic and comparison. Each operation works on the exact values of its
finite operands and rounds once; the remainder is exact. Infinite operands
and zero divisors have the usual results of the standard.
-/

namespace RowQuery.Floating

variable {f : Format}

/-- The significand of `x` counted in units of a power of two no greater than its own. -/
def unitsAt (exponent : Int) (x : Floating f) : Nat :=
  x.significand * 2 ^ (x.exponent - exponent).toNat

def signedUnitsAt (exponent : Int) (x : Floating f) : Int :=
  signed x.negative (unitsAt exponent x)

def commonExponent (x y : Floating f) : Int :=
  min x.exponent y.exponent

/-- A sum of zero is negative only if both operands are. -/
def add (x y : Floating f) : Floating f :=
  if x.isNaN || y.isNaN then nan
  else if x.isInfinite then
    if y.isInfinite && x.negative != y.negative then nan else x
  else if y.isInfinite then y
  else
    let exponent := commonExponent x y
    let sum := signedUnitsAt exponent x + signedUnitsAt exponent y
    if sum = 0 then zero (x.negative && y.negative)
    else ofScaled f (sum < 0) sum.natAbs exponent

def sub (x y : Floating f) : Floating f :=
  add x (neg y)

def mul (x y : Floating f) : Floating f :=
  let negative := x.negative != y.negative
  if x.isNaN || y.isNaN then nan
  else if x.isInfinite || y.isInfinite then
    if x.isZero || y.isZero then nan else infinity negative
  else ofScaled f negative (x.significand * y.significand) (x.exponent + y.exponent)

def div (x y : Floating f) : Floating f :=
  let negative := x.negative != y.negative
  if x.isNaN || y.isNaN then nan
  else if x.isInfinite then
    if y.isInfinite then nan else infinity negative
  else if y.isInfinite then zero negative
  else if y.isZero then
    if x.isZero then nan else infinity negative
  else
    let exponent := commonExponent x y
    ofRatio f negative (unitsAt exponent x) (unitsAt exponent y)

/-- The remainder of the division that truncates its quotient. It has the sign of the dividend. -/
def rem (x y : Floating f) : Floating f :=
  if x.isNaN || y.isNaN || x.isInfinite || y.isZero then nan
  else if y.isInfinite then x
  else
    let exponent := commonExponent x y
    ofScaled f x.negative (unitsAt exponent x % unitsAt exponent y) exponent

def compare? (x y : Floating f) : Option Ordering :=
  if x.isNaN || y.isNaN then none
  else some (compare (signed x.negative x.code) (signed y.negative y.code))

/-- Numeric equality: the zeros are equal, and what is no number equals nothing. -/
def equals (x y : Floating f) : Bool :=
  compare? x y == some .eq

def truncate? (x : Floating f) : Option Int :=
  if x.isFinite then
    some (signed x.negative (x.significand * 2 ^ x.exponent.toNat / 2 ^ (-x.exponent).toNat))
  else none

/-- The nearest integer, halves away from zero, as a number of the format. -/
def round (x : Floating f) : Floating f :=
  if x.isFinite then
    let nearest := divideHalfUp (x.significand * 2 ^ x.exponent.toNat) (2 ^ (-x.exponent).toNat)
    ofRatio f x.negative nearest 1
  else x

end RowQuery.Floating
