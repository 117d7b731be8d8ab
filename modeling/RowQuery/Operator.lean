/-!
The operators of expressions. The order of the binary operators runs from the
loosest to the tightest; parentheses are decided by it, with all operators of
a class treated as the last of the class that stands without parentheses.
-/

namespace RowQuery

inductive BinaryOp where
  | or
  | and
  | eq
  | ne
  | gt
  | ge
  | lt
  | le
  | add
  | sub
  | mul
  | div
  | mod
deriving DecidableEq, Repr

namespace BinaryOp

def all : List BinaryOp :=
  [.or, .and, .eq, .ne, .gt, .ge, .lt, .le, .add, .sub, .mul, .div, .mod]

def rank : BinaryOp → Nat
  | .or => 0
  | .and => 1
  | .eq => 2
  | .ne => 3
  | .gt => 4
  | .ge => 5
  | .lt => 6
  | .le => 7
  | .add => 8
  | .sub => 9
  | .mul => 10
  | .div => 11
  | .mod => 12

def isBoolean (op : BinaryOp) : Bool :=
  op.rank ≤ le.rank

def isComparison (op : BinaryOp) : Bool :=
  eq.rank ≤ op.rank && op.rank ≤ le.rank

def isArithmetic (op : BinaryOp) : Bool :=
  add.rank ≤ op.rank

def keyword : BinaryOp → String
  | .or => "or"
  | .and => "and"
  | .eq => "eq"
  | .ne => "ne"
  | .gt => "gt"
  | .ge => "ge"
  | .lt => "lt"
  | .le => "le"
  | .add => "add"
  | .sub => "sub"
  | .mul => "mul"
  | .div => "div"
  | .mod => "mod"

/-- The operator that stands for its class when parentheses are decided. -/
def bucket : BinaryOp → BinaryOp
  | .or => .or
  | .and | .eq | .ne | .gt | .ge | .lt | .le => .and
  | .add | .sub | .mul | .div | .mod => .sub

/-- Whether an operation is put in parentheses as an operand of another. -/
def parenthesizes (op child : BinaryOp) : Bool :=
  child.bucket.rank < op.rank

def tighter (op : BinaryOp) : List BinaryOp :=
  all.filter fun other => op.rank < other.rank

end BinaryOp

inductive UnaryOp where
  | not
  | negate
deriving DecidableEq, Repr

def UnaryOp.keyword : UnaryOp → String
  | .not => "not"
  | .negate => "-"

end RowQuery
