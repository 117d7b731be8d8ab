import RowQuery.Member
import RowQuery.Operator
import RowQuery.QueryFunction
import RowQuery.QueryOption

/-!
Nodes of queries, and queries as nodes. Every node has a static type. Nodes
are made by functions that check what printing relies on: operands agree in
their type, constants belong to theirs, and casts lead to primitive types.
-/

namespace RowQuery

/-- One column of a projection: a path, all columns behind a path, or all columns. -/
structure SelectColumn where
  path : Option MemberPath
  allColumns : Bool
deriving DecidableEq, Repr

mutual

inductive Node where
  | binary (op : BinaryOp) (left right : Node)
  | unary (op : UnaryOp) (operand : Node)
  | call (function : QueryFunction) (args : List Node) (type : EdmType)
  | constant (value : Value) (type : EdmType)
  | member (path : MemberPath)
  | convert (operand : Node) (type : EdmType)
  | sortKey (key : SortKey)
  | selectColumn (column : SelectColumn)
  | query (query : Query)

structure SortKey where
  operand : Node
  direction : Direction

structure Query where
  filter : Option Node
  orderBy : List SortKey
  top : Option Nat
  skip : Nat
  format : Option String
  inlineCount : CountMode
  select : List SelectColumn

end

inductive NodeError where
  | operandTypes (op : BinaryOp) (left right : EdmType)
  | constantType (value : String) (type : EdmType)
  | castTarget (type : EdmType)
  | emptyColumn
  | filterType (type : EdmType)
deriving DecidableEq, Repr

def NodeError.message : NodeError → String
  | .operandTypes op left right =>
    "operands of '" ++ op.keyword ++ "' must have equal types (left: " ++ left.name ++
      ", right: " ++ right.name ++ ")"
  | .constantType value type =>
    "value '" ++ value ++ "' is not a valid " ++ type.name ++ " constant"
  | .castTarget type => "cannot cast to non-primitive type " ++ type.name
  | .emptyColumn => "a select column needs a member path or the all-columns wildcard"
  | .filterType type => "query filter must be Boolean, got " ++ type.name

namespace SelectColumn

def ofPath (p : MemberPath) : SelectColumn := ⟨some p, false⟩

def wildcard : SelectColumn := ⟨none, true⟩

def make (path : Option MemberPath) (allColumns : Bool) : Except NodeError SelectColumn :=
  if path.isNone && !allColumns then .error .emptyColumn else .ok ⟨path, allColumns⟩

def type (c : SelectColumn) : EdmType :=
  match c.path with
  | some p => p.type
  | none => .complex

def text (c : SelectColumn) : String :=
  match c.path with
  | some p => if c.allColumns then p.text ++ "/*" else p.text
  | none => if c.allColumns then "*" else ""

def equals (c d : SelectColumn) : Bool :=
  (match c.path, d.path with
    | some p, some q => p.equals q
    | none, none => true
    | _, _ => false) &&
  c.allColumns == d.allColumns

end SelectColumn

def Query.empty : Query := ⟨none, [], none, 0, none, .none, []⟩

namespace Node

def type : Node → EdmType
  | .binary op left _ => if op.isBoolean then .boolean else left.type
  | .unary _ operand => operand.type
  | .call _ _ type => type
  | .constant _ type => type
  | .member path => path.type
  | .convert _ type => type
  | .sortKey ⟨operand, _⟩ => operand.type
  | .selectColumn column => column.type
  | .query _ => .complex

def makeBinary (left : Node) (op : BinaryOp) (right : Node) : Except NodeError Node :=
  if left.type = right.type then .ok (.binary op left right)
  else .error (.operandTypes op left.type right.type)

/-- A value as a constant of its type, or null of any but the structured type. -/
def makeConstant (value : Value) (type : EdmType) : Except NodeError Node :=
  if type != .complex && (value.isNull || value.type? == some type) then .ok (.constant value type)
  else .error (.constantType value.text type)

def ofValue (value : Value) : Except NodeError Node :=
  makeConstant value (value.type?.getD .complex)

def makeConvert (operand : Node) (type : EdmType) : Except NodeError Node :=
  if type.isPrimitive then .ok (.convert operand type) else .error (.castTarget type)

/-- Whether a conversion to the type needs no cast in the text. -/
def isImplicit (operand : Node) (type : EdmType) : Bool :=
  operand.type.widensTo type

end Node

def SortKey.type (k : SortKey) : EdmType :=
  k.operand.type

mutual

def Node.equals : Node → Node → Bool
  | .binary o a b, .binary p c d => o == p && a.equals c && b.equals d
  | .unary o a, .unary p b => o == p && a.equals b
  | .call f as s, .call g bs t => f == g && Node.equalLists as bs && s == t
  | .constant v s, .constant w t => v.equals w && s == t
  | .member p, .member q => p.equals q
  | .convert a s, .convert b t => a.equals b && s == t
  | .sortKey j, .sortKey k => j.equals k
  | .selectColumn c, .selectColumn d => c.equals d
  | .query q, .query r => q.equals r
  | _, _ => false

def Node.equalLists : List Node → List Node → Bool
  | [], [] => true
  | a :: as, b :: bs => a.equals b && Node.equalLists as bs
  | _, _ => false

def Node.equalOptions : Option Node → Option Node → Bool
  | none, none => true
  | some a, some b => a.equals b
  | _, _ => false

def SortKey.equals : SortKey → SortKey → Bool
  | ⟨a, d⟩, ⟨b, e⟩ => a.equals b && d == e

def SortKey.equalLists : List SortKey → List SortKey → Bool
  | [], [] => true
  | j :: js, k :: ks => j.equals k && SortKey.equalLists js ks
  | _, _ => false

def Query.equals : Query → Query → Bool
  | ⟨filter, orderBy, top, skip, format, count, select⟩,
    ⟨filter', orderBy', top', skip', format', count', select'⟩ =>
    Node.equalOptions filter filter' && SortKey.equalLists orderBy orderBy' && top == top' &&
      skip == skip' && format == format' && count == count' &&
      (select.length == select'.length &&
        (select.zip select').all fun (c, d) => c.equals d)

end

end RowQuery
