import RowQuery.Property

/-!
Members that expressions read: those declared with a static type, and the
properties of rows. A member path leads from the root of a query to a member
of a member.
-/

namespace RowQuery

inductive Member where
  | declared (name : String) (type : EdmType)
  | row (property : Property)
deriving DecidableEq, Repr

namespace Member

def name : Member → String
  | .declared name _ => name
  | .row p => p.name

def type : Member → EdmType
  | .declared _ type => type
  | .row p => p.columnType.edmType

/-- The column type of a read. A declared member of a structured type can be anything. -/
def columnType : Member → ColumnType
  | .declared _ .complex => .any
  | .declared _ type => .ofEdm type
  | .row p => p.columnType

def equals : Member → Member → Bool
  | .declared m s, .declared n t => m == n && s == t
  | .row p, .row q => p.equals q
  | _, _ => false

end Member

structure MemberPath where
  parents : List Member
  last : Member
deriving DecidableEq, Repr

namespace MemberPath

def ofMember (m : Member) : MemberPath := ⟨[], m⟩

def members (p : MemberPath) : List Member :=
  p.parents ++ [p.last]

def extend (p : MemberPath) (m : Member) : MemberPath := ⟨p.members, m⟩

def type (p : MemberPath) : EdmType :=
  p.last.type

def text (p : MemberPath) : String :=
  String.intercalate "/" (p.members.map Member.name)

def equalMembers : List Member → List Member → Bool
  | [], [] => true
  | m :: ms, n :: ns => m.equals n && equalMembers ms ns
  | _, _ => false

def equals (p q : MemberPath) : Bool :=
  equalMembers p.members q.members

end MemberPath

end RowQuery
