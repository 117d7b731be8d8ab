import RowQuery.Member
import RowQuery.Operator
import RowQuery.Text.Quoted

/-!
Expressions over rows: parameters, constants, reads of columns by method or as
members, and operators. Each has a column type, and a display text in which
every operation stands in parentheses.
-/

namespace RowQuery

/-- A method: the typed read of a column, or any other method by its name. -/
inductive Method where
  | rowGet (type : ColumnType)
  | named (name : String) (returnType : ColumnType)
deriving DecidableEq, Repr

namespace Method

def returnType : Method → ColumnType
  | .rowGet type => type
  | .named _ type => type

def text : Method → String
  | .rowGet type => "Row::get::<" ++ type.text ++ ">"
  | .named name _ => name

def callText : Method → String
  | .rowGet type => "get::<" ++ type.text ++ ">"
  | .named name _ => name

end Method

inductive Expr where
  | parameter (name : String) (type : ColumnType)
  | constant (value : Value) (type : ColumnType)
  /-- A named value that was fixed when the expression was built. -/
  | captured (name : String) (value : Value) (type : ColumnType)
  | call (method : Method) (receiver : Option Expr) (args : List Expr)
  | member (receiver : Option Expr) (member : Member)
  | binary (op : BinaryOp) (left right : Expr)
  | unary (op : UnaryOp) (operand : Expr)
  | convert (operand : Expr) (type : ColumnType)

/-- The column type of a value on its own. Null can be anything. -/
def ColumnType.ofValue : Value → ColumnType
  | .null => .any
  | .row _ => .row
  | .list _ => .list
  | v => .ofEdm (v.type?.getD .complex)

namespace Expr

def row (name : String) : Expr := .parameter name .row

def ofValue (v : Value) : Expr := .constant v (.ofValue v)

def nullOf (type : ColumnType) : Expr := .constant .null type.asNullable

def ofName (name : String) : Expr := .constant (.string name) .string

def column (receiver : Expr) (type : ColumnType) (name : String) : Expr :=
  .call (.rowGet type) (some receiver) [ofName name]

def columnType : Expr → ColumnType
  | .parameter _ type => type
  | .constant _ type => type
  | .captured _ _ type => type
  | .call method _ _ => method.returnType
  | .member _ m => m.columnType
  | .binary op left _ => if op.isBoolean then .boolean else left.columnType
  | .unary _ operand => operand.columnType
  | .convert _ type => type

end Expr

mutual

/-- Whether a parameter occurs, so that the value depends on what the expression is applied to. -/
def Expr.hasParameters : Expr → Bool
  | .parameter _ _ => true
  | .constant _ _ | .captured _ _ _ => false
  | .call _ receiver args => Expr.receiverHasParameters receiver || Expr.anyHasParameters args
  | .member receiver _ => Expr.receiverHasParameters receiver
  | .binary _ left right => left.hasParameters || right.hasParameters
  | .unary _ operand => operand.hasParameters
  | .convert operand _ => operand.hasParameters

def Expr.receiverHasParameters : Option Expr → Bool
  | none => false
  | some e => e.hasParameters

def Expr.anyHasParameters : List Expr → Bool
  | [] => false
  | e :: rest => e.hasParameters || Expr.anyHasParameters rest

end

def Value.constantText : Value → String
  | .string s => Text.displayQuoted s
  | v => v.text

mutual

def Expr.text : Expr → String
  | .parameter name _ => name
  | .constant v _ => v.constantText
  | .captured name _ _ => name
  | .call method receiver args =>
    Expr.receiverText receiver ++ method.callText ++ "(" ++
      String.intercalate ", " (Expr.texts args) ++ ")"
  | .member receiver m => Expr.receiverText receiver ++ m.name
  | .binary op left right => "(" ++ left.text ++ " " ++ op.keyword ++ " " ++ right.text ++ ")"
  | .unary op operand => op.keyword ++ "(" ++ operand.text ++ ")"
  | .convert operand type => "(" ++ operand.text ++ " as " ++ type.text ++ ")"

def Expr.receiverText : Option Expr → String
  | none => ""
  | some e => e.text ++ "."

def Expr.texts : List Expr → List String
  | [] => []
  | e :: rest => e.text :: Expr.texts rest

end

mutual

/-- Equality part by part, in which values and members are compared as such. -/
def Expr.equals : Expr → Expr → Bool
  | .parameter m s, .parameter n t => m == n && s == t
  | .constant v s, .constant w t => v.equals w && s == t
  | .captured m v s, .captured n w t => m == n && v.equals w && s == t
  | .call m q as, .call n r bs =>
    m == n && Expr.equalReceivers q r && Expr.equalLists as bs
  | .member q m, .member r n => Expr.equalReceivers q r && m.equals n
  | .binary o a b, .binary p c d => o == p && a.equals c && b.equals d
  | .unary o a, .unary p b => o == p && a.equals b
  | .convert a s, .convert b t => a.equals b && s == t
  | _, _ => false

def Expr.equalReceivers : Option Expr → Option Expr → Bool
  | none, none => true
  | some a, some b => a.equals b
  | _, _ => false

def Expr.equalLists : List Expr → List Expr → Bool
  | [], [] => true
  | a :: as, b :: bs => a.equals b && Expr.equalLists as bs
  | _, _ => false

end

end RowQuery
