import RowQuery.Floating.Basic

/-!
The fewest decimal digits that identify a floating-point number. The numbers
that round to it form an interval; the first decimal grid with a point in the
interval decides the length, and the point nearest to the number the digits.
-/

namespace RowQuery

inductive Tie where
  | toEven
  | upward
deriving DecidableEq, Repr

structure Digits where
  value : Nat
  exponent : Int
deriving DecidableEq, Repr

namespace Floating

variable {f : Format}

/-- Compares `a * 10 ^ i` with `n * 2 ^ j`. -/
def compareScaled (a : Nat) (i : Int) (n : Nat) (j : Int) : Ordering :=
  compare (a * 10 ^ i.toNat * 2 ^ (-j).toNat) (n * 2 ^ j.toNat * 10 ^ (-i).toNat)

/-- Whether the number below is only half as far away as the number above. -/
def narrowBelow (x : Floating f) : Bool :=
  x.fraction == 0 && 1 < x.biasedExponent

/-- Whether a decimal lies in the interval that rounds to the number. The ends belong to it if
the significand is even. -/
def readsBack (x : Floating f) (d : Digits) : Bool :=
  let least := if x.narrowBelow then 4 * x.significand - 1 else 4 * x.significand - 2
  let greatest := 4 * x.significand + 2
  let low := compareScaled d.value d.exponent least (x.exponent - 2)
  let high := compareScaled d.value d.exponent greatest (x.exponent - 2)
  let closed := x.significand % 2 == 0
  (low == .gt || (closed && low == .eq)) && (high == .lt || (closed && high == .eq))

def gridRatio (x : Floating f) (grid : Int) : Nat × Nat :=
  (x.significand * 2 ^ x.exponent.toNat * 10 ^ (-grid).toNat,
    2 ^ (-x.exponent).toNat * 10 ^ grid.toNat)

/-- The least `k` for which a positive number is below `10 ^ k`. -/
def decimalPlace (x : Floating f) : Int :=
  let (num, den) := gridRatio x 0
  if den ≤ num then (Nat.toDigits 10 (num / den)).length
  else 1 - ((Nat.toDigits 10 ((den - 1) / num)).length : Int)

/-- The point of a decimal grid that reads back and is nearest to the number. -/
def nearestOnGrid? (tie : Tie) (x : Floating f) (grid : Int) : Option Digits :=
  let (num, den) := gridRatio x grid
  let below : Digits := ⟨num / den, grid⟩
  let above : Digits := ⟨num / den + 1, grid⟩
  match readsBack x below, readsBack x above with
  | false, false => none
  | true, false => some below
  | false, true => some above
  | true, true =>
    match compare (2 * (num % den)) den, tie with
    | .lt, _ => some below
    | .gt, _ => some above
    | .eq, .upward => some above
    | .eq, .toEven => some (if below.value % 2 == 0 then below else above)

/-- The exact value, which ends the search if no short decimal were found. -/
def exactDigits (x : Floating f) : Digits :=
  if 0 ≤ x.exponent then ⟨x.significand * 2 ^ x.exponent.toNat, 0⟩
  else ⟨x.significand * 5 ^ (-x.exponent).toNat, x.exponent⟩

def searchDigits (tie : Tie) (x : Floating f) (place : Int) : Nat → Nat → Digits
  | 0, _ => exactDigits x
  | fuel + 1, count =>
    match nearestOnGrid? tie x (place - count) with
    | some d => d
    | none => searchDigits tie x place fuel (count + 1)

/-- The shortest digits of the magnitude of a finite number. Seventeen always suffice. -/
def shortest (tie : Tie) (x : Floating f) : Digits :=
  if x.significand = 0 then ⟨0, 0⟩ else searchDigits tie x (decimalPlace x) 17 1

end Floating

end RowQuery
