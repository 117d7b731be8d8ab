import RowQuery.Expr.Evaluate

/-!
Reads of columns as properties. Normalizing replaces every typed read by the
property of its column, which a registry gives out; denormalizing goes back.
The column name has to be known without any parameter.
-/

namespace RowQuery

/-- Why a typed read has no property: its column name cannot be found out, or it is blank. -/
inductive NormalizeError where
  | unresolved (type : ColumnType)
  | blank (type : ColumnType)
deriving DecidableEq, Repr

def columnNameParameter : String := "column_name"

def NormalizeError.message : NormalizeError → String
  | .unresolved type =>
    "Unable to extract value for parameter '" ++ columnNameParameter ++ "' of " ++
      (Method.rowGet type).text ++
      ". Ensure that the value for the parameter can be statically determined"
  | .blank type =>
    "'" ++ columnNameParameter ++ "' value for " ++ (Method.rowGet type).text ++
      " must not be null or whitespace"

def Value.columnName (type : ColumnType) : Value → Except NormalizeError String
  | .string name => if Text.isAllBlank name then .error (.blank type) else .ok name
  | .null => .error (.blank type)
  | _ => .error (.unresolved type)

def Expr.columnName (type : ColumnType) : List Expr → Except NormalizeError String
  | [e] =>
    if e.hasParameters then .error (.unresolved type)
    else
      match e.evaluate .empty with
      | .ok v => v.columnName type
      | .error _ => .error (.unresolved type)
  | _ => .error (.unresolved type)

/-- A step that may fail and changes a registry. What was registered before a failure remains. -/
abbrev Registering (ε : Type) := ExceptT ε (StateM Registry)

namespace Registering

def property {ε : Type} (name : String) (type : ColumnType) : Registering ε Property :=
  fun r =>
    let (p, r') := r.property name type
    (.ok p, r')

def pureStep {ε α : Type} (result : Except ε α) : Registering ε α :=
  fun r => (result, r)

end Registering

mutual

/-- Replaces typed reads by properties, a read before the reads in its receiver. -/
def Expr.normalize : Expr → Registering NormalizeError Expr
  | .call (.rowGet type) receiver args => do
    let name ← Registering.pureStep (Expr.columnName type args)
    let p ← Registering.property name type
    let r ← Expr.normalizeReceiver receiver
    return .member r (.row p)
  | .call (.named name type) receiver args => do
    let r ← Expr.normalizeReceiver receiver
    let as ← Expr.normalizeAll args
    return .call (.named name type) r as
  | .member receiver m => do
    let r ← Expr.normalizeReceiver receiver
    return .member r m
  | .binary op left right => do
    let l ← left.normalize
    let r ← right.normalize
    return .binary op l r
  | .unary op operand => do
    let e ← operand.normalize
    return .unary op e
  | .convert operand type => do
    let e ← operand.normalize
    return .convert e type
  | .parameter name type => return .parameter name type
  | .constant v type => return .constant v type
  | .captured name v type => return .captured name v type

def Expr.normalizeReceiver : Option Expr → Registering NormalizeError (Option Expr)
  | none => return none
  | some e => do
    let r ← e.normalize
    return some r

def Expr.normalizeAll : List Expr → Registering NormalizeError (List Expr)
  | [] => return []
  | e :: rest => do
    let first ← e.normalize
    let others ← Expr.normalizeAll rest
    return first :: others

end

def Expr.normalizeIn (r : Registry) (e : Expr) : Except NormalizeError Expr × Registry :=
  e.normalize r

mutual

def Expr.denormalize : Expr → Expr
  | .member receiver (.row p) =>
    .call (.rowGet p.columnType) (Expr.denormalizeReceiver receiver) [.ofName p.name]
  | .member receiver (.declared name type) =>
    .member (Expr.denormalizeReceiver receiver) (.declared name type)
  | .call method receiver args =>
    .call method (Expr.denormalizeReceiver receiver) (Expr.denormalizeAll args)
  | .binary op left right => .binary op left.denormalize right.denormalize
  | .unary op operand => .unary op operand.denormalize
  | .convert operand type => .convert operand.denormalize type
  | .parameter name type => .parameter name type
  | .constant v type => .constant v type
  | .captured name v type => .captured name v type

def Expr.denormalizeReceiver : Option Expr → Option Expr
  | none => none
  | some e => some e.denormalize

def Expr.denormalizeAll : List Expr → List Expr
  | [] => []
  | e :: rest => e.denormalize :: Expr.denormalizeAll rest

end

end RowQuery
