import RowQuery.Expr
import RowQuery.Node
import RowQuery.Value.StringMethod

/-!
Nodes of queries from normalized expressions. The parameter is the root of all
member paths and leaves no trace, and an operand of a narrower type is
converted to the type of the other one.
-/

namespace RowQuery

inductive CounterpartError where
  | constant (value : String) (type : ColumnType)
  | receiverMissing (call : String)
  | method (call : String)
  | rowRead (call : String)
  | parameter (name : String)
  | notPath (expr : String)
  | node (error : NodeError)
deriving DecidableEq, Repr

def CounterpartError.message : CounterpartError → String
  | .constant value type => "cannot translate constant " ++ value ++ " of type " ++ type.text
  | .receiverMissing call => "cannot translate " ++ call ++ ": no receiver"
  | .method call => "cannot translate " ++ call
  | .rowRead call =>
    "cannot translate " ++ call ++ ": row accessor calls must be normalized first"
  | .parameter name => "cannot translate bare parameter '" ++ name ++ "'"
  | .notPath expr => "cannot translate " ++ expr ++ " is not a member path"
  | .node error => error.message

namespace Node

def orCounterpart {α : Type} : Except NodeError α → Except CounterpartError α
  | .ok a => .ok a
  | .error e => .error (.node e)

/-- A constant of its column type, or of its own type where that is none. -/
def ofConstant (value : Value) (type : ColumnType) : Except CounterpartError Node :=
  match type with
  | .of (.primitive t) _ => orCounterpart (makeConstant value t)
  | _ =>
    match value.type? with
    | some t =>
      if t.isPrimitive then orCounterpart (makeConstant value t)
      else .error (.constant value.text type)
    | none => .error (.constant value.text type)

/-- An operation whose narrower operand is converted to the type of the other. -/
def ofOperation (op : BinaryOp) (left right : Node) : Except CounterpartError Node :=
  orCounterpart <|
    if left.type = right.type then makeBinary left op right
    else if left.type.widensTo right.type then do
      let l ← makeConvert left right.type
      makeBinary l op right
    else if right.type.widensTo left.type then do
      let r ← makeConvert right left.type
      makeBinary left op r
    else makeBinary left op right

/-- A conversion, which a node of the type itself does not need. -/
def ofConversion (operand : Node) (type : EdmType) : Except CounterpartError Node :=
  if operand.type = type then .ok operand else orCounterpart (makeConvert operand type)

def ofMethod? (name : String) (receiver : Node) (args : List Node) : Option Node :=
  match StringMethod.ofName? name, args with
  | some .startsWith, [arg] => some (.call .startsWith [receiver, arg] .boolean)
  | some .endsWith, [arg] => some (.call .endsWith [receiver, arg] .boolean)
  | some .contains, [arg] => some (.call .substringOf [arg, receiver] .boolean)
  | some .indexOf, [arg] => some (.call .indexOf [receiver, arg] .int32)
  | some .toLower, [] => some (.call .toLower [receiver] .string)
  | some .toUpper, [] => some (.call .toUpper [receiver] .string)
  | some .trim, [] => some (.call .trim [receiver] .string)
  | some .length, [] => some (.call .length [receiver] .int32)
  | _, _ => none

end Node

namespace Expr

/-- The member path of a read. Without a receiver, or with a parameter, it starts at the root. -/
def toPath : Expr → Except CounterpartError MemberPath
  | .member none m => .ok (.ofMember m)
  | .member (some (.parameter _ _)) m => .ok (.ofMember m)
  | .member (some receiver) m => do
    let p ← receiver.toPath
    return p.extend m
  | e => .error (.notPath e.text)

end Expr

mutual

def Expr.toNode : Expr → Except CounterpartError Node
  | .constant v type => Node.ofConstant v type
  | .captured _ v type => Node.ofConstant v type
  | .member receiver m => do
    let p ← (Expr.member receiver m).toPath
    return .member p
  | .binary op left right => do
    let l ← left.toNode
    let r ← right.toNode
    Node.ofOperation op l r
  | .unary op operand => do
    let n ← operand.toNode
    return .unary op n
  | .convert operand type => do
    let n ← operand.toNode
    Node.ofConversion n type.edmType
  | .call (.named name type) receiver args => do
    let call := Expr.call (.named name type) receiver args
    let r ← Expr.receiverToNode call.text receiver
    let ns ← Expr.toNodes args
    match Node.ofMethod? name r ns with
    | some n => return n
    | none => throw (.method call.text)
  | .call (.rowGet type) receiver args =>
    .error (.rowRead (Expr.call (.rowGet type) receiver args).text)
  | .parameter name _ => .error (.parameter name)

/-- The node of a receiver, without which the call has no counterpart. -/
def Expr.receiverToNode (call : String) : Option Expr → Except CounterpartError Node
  | none => .error (.receiverMissing call)
  | some e => e.toNode

def Expr.toNodes : List Expr → Except CounterpartError (List Node)
  | [] => .ok []
  | e :: rest => do
    let n ← e.toNode
    let ns ← Expr.toNodes rest
    return n :: ns

end

namespace Expr

def toSortKey (e : Expr) (direction : Direction) : Except CounterpartError SortKey := do
  let n ← e.toNode
  return ⟨n, direction⟩

def toSelectColumn (e : Expr) : Except CounterpartError SelectColumn := do
  let p ← e.toPath
  return .ofPath p

end Expr

end RowQuery
