import RowQuery.Expr
import RowQuery.Value.Operation
import RowQuery.Value.StringMethod

/-!
Evaluation of expressions with values for their parameters. Operands are
evaluated from left to right and the first error is the result; a logical
operator looks at its right side only if the left one does not decide.
-/

namespace RowQuery

/-- Values of parameters, the latest first. -/
structure Bindings where
  values : List (String × Value)

namespace Bindings

def empty : Bindings := ⟨[]⟩

/-- Gives a parameter a value, in place of an earlier one. -/
def bind (b : Bindings) (name : String) (value : Value) : Bindings :=
  ⟨(name, value) :: b.values⟩

def value? (b : Bindings) (name : String) : Option Value :=
  b.values.lookup name

end Bindings

namespace Value

def expectRow (v : Value) : Except EvalError Row :=
  match v.asRow? with
  | some r => .ok r
  | none => .error (.type (.notRow v.kindName))

def expectBoolean (op : BinaryOp) (v : Value) : Except EvalError Bool :=
  match v.asBool? with
  | some b => .ok b
  | none => .error (.type (.notBoolean op v.kindName))

end Value

def EvalError.ofRead {α : Type} : Except RowError α → Except EvalError α
  | .ok a => .ok a
  | .error e => .error (.row e)

/-- The stored value of a property, which has to be of the property's type. -/
def Property.typedValueIn (p : Property) (row : Row) : Except RowError Value := do
  let v ← p.valueIn row
  if p.columnType.accepts v then .ok v
  else .error (.typeMismatch p.name v.text p.columnType)

/-- Reads a member of a row. Declared members take any value. -/
def Member.read (m : Member) (row : Row) : Except RowError Value :=
  match m with
  | .declared name _ => row.lookUp name
  | .row p => p.typedValueIn row

def Method.apply (m : Method) (receiver : Value) (args : List Value) : Except EvalError Value :=
  match m with
  | .rowGet type => do
    let row ← receiver.expectRow
    match args with
    | [.string name] => EvalError.ofRead (row.getAs name type)
    | _ => throw (.type (.columnNameArgument m.text))
  | .named name _ => receiver.callMethod name args

mutual

def Expr.evaluate (b : Bindings) : Expr → Except EvalError Value
  | .parameter name _ =>
    match b.value? name with
    | some v => .ok v
    | none => .error (.unbound name)
  | .constant v _ => .ok v
  | .captured _ v _ => .ok v
  | .call method receiver args => do
    let r ← Expr.evaluateReceiver b (.receiverMissing method.text) receiver
    let vs ← Expr.evaluateAll b args
    method.apply r vs
  | .member receiver m => do
    let r ← Expr.evaluateReceiver b (.ownerMissing m.name) receiver
    let row ← r.expectRow
    EvalError.ofRead (m.read row)
  | .binary op left right => do
    let l ← left.evaluate b
    if op = .and || op = .or then
      let decided ← l.expectBoolean op
      if decided = (op = .or) then return .boolean decided
      let r ← right.evaluate b
      return .boolean (← r.expectBoolean op)
    let r ← right.evaluate b
    Value.applyBinary op l r
  | .unary op operand => do
    let v ← operand.evaluate b
    Value.applyUnary op v
  | .convert operand type => do
    let v ← operand.evaluate b
    v.convertTo type

def Expr.evaluateReceiver (b : Bindings) (missing : TypeFault) :
    Option Expr → Except EvalError Value
  | none => .error (.type missing)
  | some e => e.evaluate b

def Expr.evaluateAll (b : Bindings) : List Expr → Except EvalError (List Value)
  | [] => .ok []
  | e :: rest => do
    let v ← e.evaluate b
    let vs ← Expr.evaluateAll b rest
    return v :: vs

end

end RowQuery
