import RowQuery.Decimal.Basic
import RowQuery.Floating.Rounding

/-!
Arithmetic of decimal numbers. Results are exact as long as they fit;
otherwise the fewest digits are dropped and the last one is rounded to even.
Where no scale is left to give up, there is no result. Remainders are found by
long division in words of thirty-two bits.
-/

namespace RowQuery.Decimal

/-- Drops the fewest digits with which a coefficient and its scale fit, and rounds to even. If
the rounding itself reaches the limit, one more digit goes. -/
def fit? (coefficient scale : Nat) : Option (Nat × Nat) :=
  let dropped? := (List.range (scale + 1)).find? fun k =>
    coefficient / 10 ^ k < coefficientLimit && scale - k ≤ scaleLimit
  match dropped? with
  | none => none
  | some k =>
    let rounded := divideToEven coefficient (10 ^ k)
    if rounded < coefficientLimit then some (rounded, scale - k)
    else if scale - k = 0 then none
    else some (divideToEven rounded 10, scale - k - 1)

def ofFit? (negative : Bool) (coefficient scale : Nat) : Option Decimal :=
  (fit? coefficient scale).map fun (c, s) => ofParts negative c s

/-- A zero operand leaves the other one as it is, with its own scale. -/
def add? (a b : Decimal) : Option Decimal :=
  if a.isZero then some b
  else if b.isZero then some a
  else
    let scale := commonScale a b
    let sum := signedUnitsAt scale a + signedUnitsAt scale b
    ofFit? (sum < 0) sum.natAbs scale

def sub? (a b : Decimal) : Option Decimal :=
  if b.isZero then some (if a.isZero then b else a) else add? a b.neg

def wordLimit : Nat := 2 ^ 32

def isShort (d : Decimal) : Bool :=
  d.coefficient < wordLimit

/-- Two short coefficients whose product lies far below every scale give a plain zero, and a
product of theirs that is rounded to zero has no sign. Other products keep it. -/
def mul? (a b : Decimal) : Option Decimal :=
  let scale := a.scale + b.scale
  let negative := a.negative != b.negative
  let product := a.coefficient * b.coefficient
  if a.isZero || b.isZero then some zero
  else if a.isShort && b.isShort then
    if 47 < scale then some zero else ofFit? negative product scale
  else (fit? product scale).map fun (c, s) => ⟨negative, c, s⟩

/-- A quotient under construction: the digits so far, what is left to divide, and the scale,
which may still be negative. -/
structure Quotient where
  digits : Nat
  rest : Nat
  scale : Int

/-- The most digits, up to nine, by which a quotient can grow within both limits. -/
def growth (q : Quotient) : Nat :=
  let most := min 9 ((scaleLimit : Int) - q.scale).toNat
  ((List.range (most + 1)).reverse.find? fun k =>
    q.digits ≤ (coefficientLimit - 1) / 10 ^ k).getD 0

def Quotient.grow (divisor k : Nat) (q : Quotient) : Quotient :=
  let rest := q.rest * 10 ^ k
  ⟨q.digits * 10 ^ k + rest / divisor, rest % divisor, q.scale + k⟩

def Quotient.shorten? (digits scale : Nat) (exact : Bool) : Option (Nat × Nat) :=
  if scale = 0 then none
  else
    let tenth := digits / 10
    let last := digits % 10
    let up := 5 < last || (last == 5 && (!exact || tenth % 2 == 1))
    some (if up then tenth + 1 else tenth, scale - 1)

def Quotient.round? (divisor : Nat) (q : Quotient) : Option (Nat × Nat) :=
  if q.scale < 0 then none
  else
    let up := match compare (2 * q.rest) divisor with
      | .lt => false
      | .gt => true
      | .eq => q.digits % 2 == 1
    let digits := if up then q.digits + 1 else q.digits
    if digits < coefficientLimit then some (digits, q.scale.toNat)
    else Quotient.shorten? digits q.scale.toNat false

def dropZeros (count : Nat) : Nat × Nat → Nat × Nat
  | (digits, scale) =>
    if count ≤ scale && digits % 10 ^ count == 0 then (digits / 10 ^ count, scale - count)
    else (digits, scale)

def dropWords : Nat → Nat × Nat → Nat × Nat
  | 0, parts => parts
  | fuel + 1, (digits, scale) =>
    if digits % wordLimit == 0 && 8 ≤ scale && digits % 10 ^ 8 == 0 then
      dropWords fuel (digits / 10 ^ 8, scale - 8)
    else (digits, scale)

/-- Shortens the digits of a division that left a remainder, by up to seven zeros beyond whole
words of zeros. -/
def tidy (parts : Nat × Nat) : Nat × Nat :=
  dropZeros 1 (dropZeros 2 (dropZeros 4 (dropWords 4 parts)))

/-- Grows a quotient until the division is exact or the limits are reached. The flag says
whether a remainder has occurred. -/
def divideLoop (divisor : Nat) : Nat → Bool → Quotient → Option (Nat × Nat)
  | 0, _, _ => none
  | fuel + 1, inexact, q =>
    if q.rest = 0 then
      if 0 ≤ q.scale then
        some (if inexact then tidy (q.digits, q.scale.toNat) else (q.digits, q.scale.toNat))
      else
        let next := q.grow divisor (min 9 (-q.scale).toNat)
        if next.digits < coefficientLimit then divideLoop divisor fuel inexact next else none
    else
      let k := growth q
      if k = 0 then (q.round? divisor).map tidy
      else
        let next := q.grow divisor k
        if next.scale < 0 && k < 9 then none
        else if next.digits < coefficientLimit then divideLoop divisor fuel true next
        else (Quotient.shorten? next.digits next.scale.toNat (next.rest = 0)).map tidy

/-- Every round adds at least one digit, so the loop ends within the digits that fit. -/
def div? (a b : Decimal) : Option Decimal :=
  if b.isZero then none
  else if a.isZero then some zero
  else
    let start : Quotient :=
      ⟨a.coefficient / b.coefficient, a.coefficient % b.coefficient, (a.scale : Int) - b.scale⟩
    (divideLoop b.coefficient (2 * scaleLimit + 2) false start).map fun (c, s) =>
      ofParts (a.negative != b.negative) c s

/-- One step of a long division by a divisor of three words: brings a word down behind the rest so
far. Where rest and divisor have the same leading word, the digit of the quotient would not fit in
a word; the leading word of the rest is dropped then, and with it a multiple of the divisor is not
taken away. -/
def bringDown (divisor rest word : Nat) : Nat :=
  let part := rest * wordLimit + word
  if rest / wordLimit ^ 2 = divisor / wordLimit ^ 2 then part % wordLimit ^ 3 % divisor
  else part % divisor

def restOfWords (divisor : Nat) : Nat → Nat → Nat
  | 0, _ => 0
  | count + 1, n => bringDown divisor (restOfWords divisor count (n / wordLimit)) (n % wordLimit)

def leadingShift (divisor : Nat) : Nat :=
  95 - Nat.log2 divisor

/-- The rest of a division of units. Divisors of up to two words give the exact remainder; longer
ones are shifted to the front and divided by words, of which seven hold every dividend. -/
def unitsRest (a b : Nat) : Nat :=
  if b < wordLimit ^ 2 then a % b
  else
    let shift := 2 ^ leadingShift b
    restOfWords (b * shift) 7 (a * shift) / shift

/-- The remainder of the division that truncates its quotient, at the larger scale. It has the
sign of the dividend; a dividend below the divisor is the remainder itself. -/
def rem? (a b : Decimal) : Option Decimal :=
  if b.isZero then none
  else if a.isZero then some zero
  else
    let scale := commonScale a b
    match compare (unitsAt scale a) (unitsAt scale b) with
    | .eq => some zero
    | .lt => some (ofParts a.negative a.coefficient a.scale)
    | .gt => some (ofParts a.negative (unitsRest (unitsAt scale a) (unitsAt scale b)) scale)

/-- Rounds to `places` digits after the point, halves away from zero. -/
def roundAway (places : Nat) (d : Decimal) : Decimal :=
  if d.scale ≤ places then d
  else ofParts d.negative (divideHalfUp d.coefficient (10 ^ (d.scale - places))) places

end RowQuery.Decimal
