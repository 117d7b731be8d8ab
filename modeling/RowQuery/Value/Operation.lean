import RowQuery.Decimal.Arithmetic
import RowQuery.Value.Conversion

/-!
Operators on values. Comparisons take null as a value that is equal to itself
only and has no place in any order. Integer results are exact or refused,
and a remainder is refused with its quotient.
-/

namespace RowQuery.Value

def mismatch (op : BinaryOp) (left right : Value) : EvalError :=
  .type (.binaryOperands op left.kindName right.kindName)

/-- The order of two values of one type. The outer option is absent for types without an order,
the inner one where a value is no number. -/
def order? : Value → Value → Option (Option Ordering)
  | .boolean a, .boolean b => some (some (compare a b))
  | .byte a, .byte b => some (some (compare a b))
  | .int16 a, .int16 b => some (some (compare a b))
  | .int32 a, .int32 b => some (some (compare a b))
  | .int64 a, .int64 b => some (some (compare a b))
  | .single a, .single b => some (a.compare? b)
  | .double a, .double b => some (a.compare? b)
  | .decimal a, .decimal b => some (some (a.compareWith b))
  | .dateTime a, .dateTime b => some (some (a.compareWith b))
  | .guid a, .guid b => some (some (compare a.bits.toNat b.bits.toNat))
  | .string a, .string b => some (some (compareOfLessAndEq a b))
  | .binary a, .binary b => some (some (compareOfLessAndEq a b))
  | _, _ => none

def ordered (op : BinaryOp) : Option Ordering → Bool
  | none => false
  | some o =>
    match op with
    | .gt => o == .gt
    | .ge => o != .lt
    | .lt => o == .lt
    | .le => o != .gt
    | _ => false

/-- A comparison in which at least one side is null. -/
def compareNulls (op : BinaryOp) (left right : Value) : Bool :=
  match op with
  | .eq => left.isNull && right.isNull
  | .ne => !(left.isNull && right.isNull)
  | _ => false

def compareSides (op : BinaryOp) (left right : Value) : Except EvalError Value :=
  if left.isNull || right.isNull then .ok (.boolean (compareNulls op left right))
  else do
    let (l, r) ← widen left right
    if l.kindName != r.kindName then throw (mismatch op l r)
    match op with
    | .eq => return .boolean (l.equals r)
    | .ne => return .boolean (!l.equals r)
    | _ =>
      match order? l r with
      | some o => return .boolean (ordered op o)
      | none => throw (mismatch op l r)

def overflow (op : BinaryOp) : EvalError :=
  .type (.overflow op.keyword)

def integerResult (op : BinaryOp) (a b : Int) : Except EvalError Int :=
  match op with
  | .add => .ok (a + b)
  | .sub => .ok (a - b)
  | .mul => .ok (a * b)
  | .div => if b = 0 then .error .divisionByZero else .ok (a.tdiv b)
  | _ =>
    if b = 0 then .error .divisionByZero
    else if EdmType.int64.holdsInteger (a.tdiv b) then .ok (a.tmod b)
    else .error (overflow op)

def doubleResult (op : BinaryOp) (x y : Double) : Double :=
  match op with
  | .add => x.add y
  | .sub => x.sub y
  | .mul => x.mul y
  | .div => x.div y
  | _ => x.rem y

def decimalResult (op : BinaryOp) (a b : Decimal) : Except EvalError Decimal :=
  let result :=
    match op with
    | .add => a.add? b
    | .sub => a.sub? b
    | .mul => a.mul? b
    | .div => a.div? b
    | _ => a.rem? b
  if (op = .div || op = .mod) && b.isZero then .error .divisionByZero
  else
    match result with
    | some d => .ok d
    | none => .error (overflow op)

/-- An arithmetic operation on integers, whose result has the type of the operands. -/
def integerOperation (op : BinaryOp) (type : EdmType) (a b : Int) : Except EvalError Value := do
  match ofInteger? (← integerResult op a b) type with
  | some v => return v
  | none => throw (overflow op)

/-- Arithmetic after widening. The narrower binary numbers are computed in the wider format. -/
def arithmetic (op : BinaryOp) (left right : Value) : Except EvalError Value := do
  let (l, r) ← widen left right
  match l, r with
  | .single x, .single y =>
    return .single ((doubleResult op (x.convert .double) (y.convert .double)).convert .single)
  | .double x, .double y => return .double (doubleResult op x y)
  | .decimal a, .decimal b => return .decimal (← decimalResult op a b)
  | _, _ =>
    match l.integer?, r.integer?, l.type? with
    | some a, some b, some type => integerOperation op type a b
    | _, _, _ => throw (mismatch op l r)

/-- A binary operation on two values, of those that need both. Addition joins strings. -/
def applyBinary (op : BinaryOp) (left right : Value) : Except EvalError Value :=
  if op.isComparison then compareSides op left right
  else
    match op, left, right with
    | .add, .string a, .string b => .ok (.string (a ++ b))
    | _, _, _ => arithmetic op left right

def negateInteger (type : EdmType) (n : Int) : Except EvalError Value :=
  match ofInteger? (-n) type with
  | some v => .ok v
  | none => .error (.type (.overflow UnaryOp.negate.keyword))

def applyUnary (op : UnaryOp) (v : Value) : Except EvalError Value :=
  match op, v with
  | .not, .boolean b => .ok (.boolean (!b))
  | .negate, .int16 n => negateInteger .int16 n.toInt
  | .negate, .int32 n => negateInteger .int32 n.toInt
  | .negate, .int64 n => negateInteger .int64 n.toInt
  | .negate, .single x => .ok (.single x.neg)
  | .negate, .double x => .ok (.double x.neg)
  | .negate, .decimal d => .ok (.decimal d.neg)
  | _, _ => .error (.type (.unaryOperand op v.kindName))

end RowQuery.Value
