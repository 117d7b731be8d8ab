import RowQuery.Decimal.Conversion
import RowQuery.EvalError

/-!
Conversions between numeric types. Fractions are cut off, and a number whose
whole part lies outside an integer type is refused. Operands of different
types are widened to the one that holds both.
-/

namespace RowQuery.Value

def integer? : Value → Option Int
  | .byte n => some n.toNat
  | .int16 n => some n.toInt
  | .int32 n => some n.toInt
  | .int64 n => some n.toInt
  | _ => none

def ofInteger? (n : Int) (target : EdmType) : Option Value :=
  if target.holdsInteger n then
    match target with
    | .byte => some (.byte (UInt8.ofNat n.toNat))
    | .int16 => some (.int16 (Int16.ofInt n))
    | .int32 => some (.int32 (Int32.ofInt n))
    | .int64 => some (.int64 (Int64.ofInt n))
    | _ => none
  else none

def convertInteger? (n : Int) (target : EdmType) : Option Value :=
  match target with
  | .single => some (.single (.ofInt .single n))
  | .double => some (.double (.ofInt .double n))
  | .decimal => some (.decimal (.ofInt n))
  | _ => ofInteger? n target

/-- The whole part of a binary number between the bounds of the widest integer type, of which the
upper one counts as the integer below it. -/
def wholePart? (x : Double) : Option Int :=
  match x.truncate? with
  | some n => if -2 ^ 63 ≤ n && n ≤ 2 ^ 63 then some (min n (2 ^ 63 - 1)) else none
  | none => none

def convertDouble? (x : Double) (target : EdmType) : Option Value :=
  match target with
  | .single => some (.single (x.convert .single))
  | .double => some (.double x)
  | .decimal => (Decimal.ofDouble? x).map .decimal
  | _ => (wholePart? x).bind fun n => ofInteger? n target

def convertDecimal? (d : Decimal) (target : EdmType) : Option Value :=
  match target with
  | .single => some (.single d.toSingle)
  | .double => some (.double d.toDouble)
  | .decimal => some (.decimal d)
  | _ => ofInteger? d.truncate target

def convertNumeric? (v : Value) (target : EdmType) : Option Value :=
  match v with
  | .single x => convertDouble? (x.convert .double) target
  | .double x => convertDouble? x target
  | .decimal d => convertDecimal? d target
  | _ => v.integer?.bind fun n => convertInteger? n target

/-- The value as a value of a column type: as it is if it fits, converted if both are numeric. -/
def convertTo (v : Value) (target : ColumnType) : Except EvalError Value :=
  if target.accepts v then .ok v
  else
    let converted :=
      match target with
      | .of (.primitive type) _ => if type.isNumeric then v.convertNumeric? type else none
      | _ => none
    match converted with
    | some w => .ok w
    | none => .error (.type (.conversion v.kindName v.text target))

def commonType? (s t : EdmType) : Option EdmType :=
  if s.widensTo t then some t else if t.widensTo s then some s else none

def widenTo (target : EdmType) (v : Value) : Except EvalError Value :=
  match v.convertNumeric? target with
  | some w => .ok w
  | none => .error (.type (.widening v.text target))

/-- Brings two numbers to a common type. Other pairs of values stay as they are. -/
def widen (left right : Value) : Except EvalError (Value × Value) :=
  match left.type?, right.type? with
  | some s, some t =>
    if s = t || !s.isNumeric || !t.isNumeric then .ok (left, right)
    else
      match commonType? s t with
      | none => .error (.type (.unrelatedTypes s t))
      | some target => do
        let l ← left.widenTo target
        let r ← right.widenTo target
        return (l, r)
  | _, _ => .ok (left, right)

end RowQuery.Value
