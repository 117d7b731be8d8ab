import RowQuery.Text.Numeral

/-!
Binary floating-point numbers, held as the bits of their format. A finite
number denotes significand times a power of two, with a sign; arithmetic is
defined elsewhere on these exact values and rounds its result once.
-/

namespace RowQuery

/-- The widths of the two fields below the sign. -/
structure Format where
  fractionBits : Nat
  exponentBits : Nat
deriving DecidableEq, Repr

namespace Format

def single : Format := ⟨23, 8⟩

def double : Format := ⟨52, 11⟩

def width (f : Format) : Nat :=
  1 + f.exponentBits + f.fractionBits

def fractionCount (f : Format) : Nat :=
  2 ^ f.fractionBits

def exponentCount (f : Format) : Nat :=
  2 ^ f.exponentBits

/-- The magnitude code of infinity; greater codes are no numbers. -/
def infinityCode (f : Format) : Nat :=
  (f.exponentCount - 1) * f.fractionCount

def leastExponent (f : Format) : Int :=
  2 - (2 ^ (f.exponentBits - 1) : Nat) - f.fractionBits

end Format

structure Floating (f : Format) where
  bits : BitVec f.width
deriving DecidableEq, Repr

abbrev Single := Floating .single

abbrev Double := Floating .double

namespace Floating

variable {f : Format}

def negative (x : Floating f) : Bool :=
  x.bits.msb

/-- The bits below the sign. Magnitudes are ordered as these codes are. -/
def code (x : Floating f) : Nat :=
  x.bits.toNat % (f.exponentCount * f.fractionCount)

def ofCode (negative : Bool) (code : Nat) : Floating f :=
  ⟨BitVec.ofNat _ ((if negative then f.exponentCount * f.fractionCount else 0) + code)⟩

def isNaN (x : Floating f) : Bool :=
  f.infinityCode < x.code

def isInfinite (x : Floating f) : Bool :=
  x.code == f.infinityCode

def isFinite (x : Floating f) : Bool :=
  x.code < f.infinityCode

def isZero (x : Floating f) : Bool :=
  x.code == 0

def biasedExponent (x : Floating f) : Nat :=
  x.code / f.fractionCount

def fraction (x : Floating f) : Nat :=
  x.code % f.fractionCount

def significand (x : Floating f) : Nat :=
  if x.biasedExponent = 0 then x.fraction else f.fractionCount + x.fraction

def exponent (x : Floating f) : Int :=
  f.leastExponent + ((x.biasedExponent - 1 : Nat) : Int)

def zero (negative : Bool) : Floating f :=
  ofCode negative 0

def infinity (negative : Bool) : Floating f :=
  ofCode negative f.infinityCode

/-- The one value used for results that are no numbers. -/
def nan : Floating f :=
  ofCode false (f.infinityCode + f.fractionCount / 2)

def neg (x : Floating f) : Floating f :=
  ofCode (!x.negative) x.code

def signed (negative : Bool) (magnitude : Nat) : Int :=
  if negative then -(magnitude : Int) else magnitude

end Floating

end RowQuery
