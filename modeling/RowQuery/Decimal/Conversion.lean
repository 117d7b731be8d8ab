import RowQuery.Decimal.Basic
import RowQuery.Floating.Arithmetic

/-!
Conversions between decimal and binary numbers. A binary fraction is turned
into decimal digits factor by factor within the coefficient's limit, and its
digits beyond the precision of the binary format can be rounded off.
-/

namespace RowQuery.Decimal

/-- Turns `count` binary places into decimal ones. An even value is halved; an odd one is
multiplied by five at the cost of a place, or halved inexactly if that would not fit. -/
def absorb : Nat → Nat × Nat → Nat × Nat
  | 0, parts => parts
  | count + 1, (value, places) =>
    if value % 2 == 0 then absorb count (value / 2, places)
    else if value * 5 < coefficientLimit then absorb count (value * 5, places + 1)
    else absorb count (value / 2, places)

def withoutLastDigit (value : Nat) : Nat :=
  if 5 ≤ value % 10 then value / 10 + 1 else value / 10

/-- Drops decimal places down to the largest scale. A value that vanishes on the way is zero
without places. -/
def limitPlaces : Nat → Nat → Nat × Nat
  | value, 0 => (value, 0)
  | value, places + 1 =>
    if places + 1 ≤ scaleLimit then (value, places + 1)
    else if value / 10 = 0 then (0, 0)
    else limitPlaces (withoutLastDigit value) places

/-- Drops decimal places, one rounding each, while the value is not below the bound. -/
def limitValue (bound : Nat) : Nat → Nat → Nat × Nat
  | value, 0 => (value, 0)
  | value, places + 1 =>
    if value < bound then (value, places + 1)
    else limitValue bound (withoutLastDigit value) places

def dropTrailingZeros : Nat → Nat → Nat × Nat
  | value, 0 => (value, 0)
  | value, places + 1 =>
    if value % 10 == 0 then dropTrailingZeros (value / 10) places else (value, places + 1)

/-- The decimal nearest to a binary number up to the digits that fit. A whole number without room
for all its digits has none, be it only as large as the limit itself. -/
def ofFloatingFull? {f : Format} (x : Floating f) : Option Decimal :=
  if !x.isFinite then none
  else if x.isZero then some ⟨x.negative, 0, 0⟩
  else if 0 ≤ x.exponent then
    let value := x.significand * 2 ^ x.exponent.toNat
    if value < coefficientLimit then some ⟨x.negative, value, 0⟩ else none
  else
    let (value, places) := absorb (-x.exponent).toNat (x.significand, 0)
    let (value, places) := limitPlaces value places
    some ⟨x.negative, value, places⟩

/-- The decimal that a binary number stands for: digits beyond its precision are rounded off. -/
def ofDouble? (x : Double) : Option Decimal :=
  (ofFloatingFull? x).map fun d =>
    let (value, places) := limitValue Format.double.fractionCount d.coefficient d.scale
    let (value, places) := dropTrailingZeros value places
    ⟨d.negative, value, places⟩

def powerOfTen (exponent : Nat) : Double :=
  go exponent exponent (Floating.ofNat .double 1) (Floating.ofNat .double 10)
where
  go : Nat → Nat → Double → Double → Double
    | 0, _, result, _ => result
    | fuel + 1, n, result, base =>
      let result := if n % 2 == 1 then result.mul base else result
      if n / 2 = 0 then result else go fuel (n / 2) result (base.mul base)

/-- The binary number for a decimal. Whole and fractional part are converted apart, and the sum
is rounded back to the scale. -/
def toDouble (d : Decimal) : Double :=
  if d.scale = 0 then Floating.ofInt .double d.truncate
  else
    let unit := 10 ^ d.scale
    let whole := Floating.ofNat .double (d.coefficient / unit)
    let part := (Floating.ofNat .double (d.coefficient % unit)).div (Floating.ofNat .double unit)
    let power := powerOfTen d.scale
    let magnitude :=
      if part.isZero then whole else ((whole.add part).mul power).round.div power
    if d.negative then magnitude.neg else magnitude

def toSingle (d : Decimal) : Single :=
  Floating.convert .single d.toDouble

end RowQuery.Decimal
