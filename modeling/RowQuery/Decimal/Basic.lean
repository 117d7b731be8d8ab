import RowQuery.Text.Numeral

/-!
Exact decimal numbers with a scale. The coefficient has ninety-six bits and
the scale is at most twenty-eight; both are kept as they are written, so equal
numbers may have different texts.
-/

namespace RowQuery

/-- The number `coefficient / 10 ^ scale` with a sign, which zero may have too. -/
structure Decimal where
  negative : Bool
  coefficient : Nat
  scale : Nat
deriving DecidableEq, Repr

namespace Decimal

/-- Coefficients are below this bound. -/
def coefficientLimit : Nat := 2 ^ 96

def scaleLimit : Nat := 28

def zero : Decimal := ⟨false, 0, 0⟩

def isZero (d : Decimal) : Bool :=
  d.coefficient == 0

/-- A computed number, whose sign is dropped if it is zero. -/
def ofParts (negative : Bool) (coefficient scale : Nat) : Decimal :=
  ⟨negative && coefficient != 0, coefficient, scale⟩

def ofInt (n : Int) : Decimal :=
  ⟨n < 0, n.natAbs, 0⟩

def neg (d : Decimal) : Decimal :=
  { d with negative := !d.negative }

/-- The number counted in units of `10 ^ -scale`, for a scale no less than its own. -/
def unitsAt (scale : Nat) (d : Decimal) : Nat :=
  d.coefficient * 10 ^ (scale - d.scale)

def signedUnitsAt (scale : Nat) (d : Decimal) : Int :=
  if d.negative then -(unitsAt scale d : Int) else unitsAt scale d

def commonScale (a b : Decimal) : Nat :=
  max a.scale b.scale

/-- The numeric order, for which neither scale nor the sign of zero matters. -/
def compareWith (a b : Decimal) : Ordering :=
  compare (signedUnitsAt (commonScale a b) a) (signedUnitsAt (commonScale a b) b)

def truncate (d : Decimal) : Int :=
  let whole := d.coefficient / 10 ^ d.scale
  if d.negative then -(whole : Int) else whole

/-- The digits of a coefficient with the point set in front of the last `scale` of them. -/
def pointed (coefficient scale : Nat) : List Char :=
  let digits := Text.padded (scale + 1) coefficient
  let whole := digits.length - scale
  if scale = 0 then digits else digits.take whole ++ '.' :: digits.drop whole

def text (d : Decimal) : String :=
  String.ofList ((if d.negative then ['-'] else []) ++ pointed d.coefficient d.scale)

end Decimal

end RowQuery
