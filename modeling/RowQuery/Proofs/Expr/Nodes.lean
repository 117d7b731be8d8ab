import RowQuery.Expr.Evaluate

/-!
The nodes of an expression, those inside the arguments of calls included, and
the names of the parameters among them.
-/

namespace RowQuery

mutual

/-- The expression itself and all expressions inside it, outer ones first. -/
def Expr.nodes : Expr → List Expr
  | .parameter name type => [.parameter name type]
  | .constant v type => [.constant v type]
  | .captured name v type => [.captured name v type]
  | .call method receiver args =>
    .call method receiver args :: (Expr.receiverNodes receiver ++ Expr.allNodes args)
  | .member receiver m => .member receiver m :: Expr.receiverNodes receiver
  | .binary op left right => .binary op left right :: (left.nodes ++ right.nodes)
  | .unary op operand => .unary op operand :: operand.nodes
  | .convert operand type => .convert operand type :: operand.nodes

def Expr.receiverNodes : Option Expr → List Expr
  | none => []
  | some e => e.nodes

def Expr.allNodes : List Expr → List Expr
  | [] => []
  | e :: rest => e.nodes ++ Expr.allNodes rest

end

namespace Expr

theorem self_mem_nodes (e : Expr) : e ∈ e.nodes := by
  cases e <;> simp [nodes]

def isTypedRead : Expr → Bool
  | .call (.rowGet _) _ _ => true
  | _ => false

def isPropertyRead : Expr → Bool
  | .member _ (.row _) => true
  | _ => false

def isDeclaredRead : Expr → Bool
  | .member _ (.declared _ _) => true
  | _ => false

/-- A call or the read of a member without anything to apply it to. -/
def lacksReceiver : Expr → Bool
  | .call _ none _ => true
  | .member none _ => true
  | _ => false

def parameterName? : Expr → Option String
  | .parameter name _ => some name
  | _ => none

def parameters (e : Expr) : List String :=
  e.nodes.filterMap parameterName?

def receiverParameters (receiver : Option Expr) : List String :=
  (receiverNodes receiver).filterMap parameterName?

def allParameters (args : List Expr) : List String :=
  (allNodes args).filterMap parameterName?

section Parameters

variable (method : Method) (receiver : Option Expr) (args : List Expr) (m : Member)
variable (op : BinaryOp) (uop : UnaryOp) (e left right : Expr) (name : String) (v : Value)
variable (type : ColumnType)

@[simp] theorem parameters_parameter : (Expr.parameter name type).parameters = [name] := rfl

@[simp] theorem parameters_constant : (Expr.constant v type).parameters = [] := rfl

@[simp] theorem parameters_captured : (Expr.captured name v type).parameters = [] := rfl

@[simp] theorem parameters_call : (Expr.call method receiver args).parameters =
    receiverParameters receiver ++ allParameters args := by
  simp [parameters, nodes, List.filterMap_cons, parameterName?, receiverParameters, allParameters]

@[simp] theorem parameters_member : (Expr.member receiver m).parameters =
    receiverParameters receiver := by
  simp [parameters, nodes, List.filterMap_cons, parameterName?, receiverParameters]

@[simp] theorem parameters_binary : (Expr.binary op left right).parameters =
    left.parameters ++ right.parameters := by
  simp [parameters, nodes, List.filterMap_cons, parameterName?]

@[simp] theorem parameters_unary : (Expr.unary uop e).parameters = e.parameters := by
  simp [parameters, nodes, List.filterMap_cons, parameterName?]

@[simp] theorem parameters_convert : (Expr.convert e type).parameters = e.parameters := by
  simp [parameters, nodes, List.filterMap_cons, parameterName?]

@[simp] theorem receiverParameters_none : receiverParameters none = [] := rfl

@[simp] theorem receiverParameters_some : receiverParameters (some e) = e.parameters := rfl

@[simp] theorem allParameters_nil : allParameters [] = [] := rfl

@[simp] theorem allParameters_cons : allParameters (e :: args) =
    e.parameters ++ allParameters args := by
  simp [parameters, allNodes, allParameters]

end Parameters

end Expr

mutual

/-- The parameters of an expression are listed exactly where the test for them finds one. -/
theorem Expr.parameters_eq_nil_iff (e : Expr) : e.parameters = [] ↔ e.hasParameters = false := by
  cases e with
  | parameter name type => simp [Expr.hasParameters]
  | constant v type => simp [Expr.hasParameters]
  | captured name v type => simp [Expr.hasParameters]
  | call method receiver args =>
    simp [Expr.hasParameters, Expr.receiverParameters_eq_nil_iff receiver,
      Expr.allParameters_eq_nil_iff args]
  | member receiver m =>
    simp [Expr.hasParameters, Expr.receiverParameters_eq_nil_iff receiver]
  | binary op left right =>
    simp [Expr.hasParameters, Expr.parameters_eq_nil_iff left, Expr.parameters_eq_nil_iff right]
  | unary op operand =>
    simp [Expr.hasParameters, Expr.parameters_eq_nil_iff operand]
  | convert operand type =>
    simp [Expr.hasParameters, Expr.parameters_eq_nil_iff operand]

theorem Expr.receiverParameters_eq_nil_iff (receiver : Option Expr) :
    Expr.receiverParameters receiver = [] ↔ Expr.receiverHasParameters receiver = false := by
  cases receiver with
  | none => simp [Expr.receiverHasParameters]
  | some e => exact Expr.parameters_eq_nil_iff e

theorem Expr.allParameters_eq_nil_iff (args : List Expr) :
    Expr.allParameters args = [] ↔ Expr.anyHasParameters args = false := by
  cases args with
  | nil => simp [Expr.anyHasParameters]
  | cons e rest =>
    simp [Expr.anyHasParameters, Expr.parameters_eq_nil_iff e, Expr.allParameters_eq_nil_iff rest]

end

end RowQuery
