import RowQuery.Floating.Arithmetic
import RowQuery.Json
import RowQuery.Text.Numeral

/-!
Numbers in JSON text. The digits are gathered in one word of sixty-four bits,
and digits that do not fit only move the point; the power of ten is applied
by one product or quotient of binary numbers, which rounds a second time.
-/

namespace RowQuery.Json

structure Scaled where
  significand : Nat
  exponent : Int

def significandLimit : Nat := 2 ^ 64

def withDigit (significand : Nat) (c : Char) : Nat :=
  significand * 10 + (Text.digit? c).getD 0

/-- Takes the digits before the point. From the first that does not fit, they count as zeros. -/
def takeWhole : Nat → List Char → Scaled
  | n, [] => ⟨n, 0⟩
  | n, c :: rest =>
    if withDigit n c < significandLimit then takeWhole (withDigit n c) rest
    else ⟨n, rest.length + 1⟩

/-- Takes the digits after the point up to the first that does not fit. -/
def takeFraction : Scaled → List Char → Scaled
  | n, [] => n
  | n, c :: rest =>
    if withDigit n.significand c < significandLimit then
      takeFraction ⟨withDigit n.significand c, n.exponent - 1⟩ rest
    else n

def greatestPower : Nat := 308

def powerOfTen (n : Nat) : Double :=
  Floating.ofNat .double (10 ^ n)

/-- Divides by a power of ten in steps that the format holds. Three steps leave nothing of a word
that is divided. -/
def divideByPower : Nat → Nat → Double → Double
  | 0, _, x => x
  | steps + 1, n, x =>
    if n ≤ greatestPower then x.div (powerOfTen n)
    else divideByPower steps (n - greatestPower) (x.div (powerOfTen greatestPower))

def Scaled.magnitude? (n : Scaled) : Option Double :=
  let x := Floating.ofNat .double n.significand
  if x.isZero then some x
  else if n.exponent < 0 then some (divideByPower 3 n.exponent.natAbs x)
  else if greatestPower < n.exponent then none
  else
    let product := x.mul (powerOfTen n.exponent.toNat)
    if product.isFinite then some product else none

def Scaled.toFloat (negative : Bool) (n : Scaled) : Except ReadError Json :=
  match n.magnitude? with
  | some x => .ok (.float (if negative then x.neg else x))
  | none => .error .malformed

/-- A number that is written as an integer. It stays one if it fits a word, of which negative
numbers have half; negative zero is a binary number. -/
def Scaled.toNumber (negative : Bool) (n : Scaled) : Except ReadError Json :=
  let fits := !negative || (0 < n.significand && 2 * n.significand ≤ significandLimit)
  if n.exponent = 0 && fits then
    .ok (.integer (Floating.signed negative n.significand))
  else n.toFloat negative

def readExponent : Reader Int := fun cs =>
  match cs with
  | [] => .ok (0, [])
  | c :: rest =>
    if c != 'e' && c != 'E' then .ok (0, cs)
    else
      let (negative, rest) :=
        match rest with
        | '-' :: after => (true, after)
        | '+' :: after => (false, after)
        | after => (false, after)
      let digits := rest.takeWhile Text.isDigit
      if digits.isEmpty then .error (missing rest)
      else
        .ok (Floating.signed negative (Text.digitsValue digits), rest.dropWhile Text.isDigit)

/-- The digits after the point, if there is one. The flag says so. -/
def readFraction (n : Scaled) : Reader (Scaled × Bool) := fun cs =>
  match cs with
  | '.' :: rest =>
    let digits := rest.takeWhile Text.isDigit
    if digits.isEmpty then .error (missing rest)
    else .ok ((takeFraction n digits, true), rest.dropWhile Text.isDigit)
  | _ => .ok ((n, false), cs)

/-- A number behind its sign. A zero in front of other digits is refused. -/
def readNumber (negative : Bool) : Reader Json := fun cs => do
  let digits := cs.takeWhile Text.isDigit
  let rest := cs.dropWhile Text.isDigit
  if digits.isEmpty then throw (missing cs)
  if digits.head? == some '0' && 1 < digits.length then throw .malformed
  let ((n, pointed), afterFraction) ← readFraction (takeWhole 0 digits) rest
  let (exponent, after) ← readExponent afterFraction
  let scaled : Scaled := { n with exponent := n.exponent + exponent }
  let written := pointed || after.length < afterFraction.length
  let number ← if written then scaled.toFloat negative else scaled.toNumber negative
  return (number, after)

end RowQuery.Json
