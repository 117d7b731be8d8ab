import RowQuery.Node

/-!
Updates of queries. An update names for each option the value that it gets or
nothing at all; options that it does not name keep theirs. It is made by
settings one after the other, of which those that clear an option differ from
none at all. The filter of the result has to be Boolean.
-/

namespace RowQuery

/-- What an update does to an option. -/
inductive Change (α : Type) where
  | keep
  | set (value : α)

def Change.apply {α : Type} (change : Change α) (current : α) : α :=
  match change with
  | .keep => current
  | .set value => value

structure Query.Update where
  filter : Change (Option Node) := .keep
  orderBy : Change (List SortKey) := .keep
  top : Change (Option Nat) := .keep
  skip : Change Nat := .keep
  format : Change (Option String) := .keep
  inlineCount : Change CountMode := .keep
  select : Change (List SelectColumn) := .keep

namespace Query.Update

inductive Setting where
  | filter (n : Node)
  | clearFilter
  | orderBy (keys : List SortKey)
  | top (limit : Nat)
  | clearTop
  | skip (count : Nat)
  | format (name : String)
  | clearFormat
  | inlineCount (mode : CountMode)
  | select (columns : List SelectColumn)

def set (u : Update) : Setting → Update
  | .filter n => { u with filter := .set (some n) }
  | .clearFilter => { u with filter := .set none }
  | .orderBy keys => { u with orderBy := .set keys }
  | .top limit => { u with top := .set (some limit) }
  | .clearTop => { u with top := .set none }
  | .skip count => { u with skip := .set count }
  | .format name => { u with format := .set (some name) }
  | .clearFormat => { u with format := .set none }
  | .inlineCount mode => { u with inlineCount := .set mode }
  | .select columns => { u with select := .set columns }

/-- Starts with an update that keeps everything. -/
def ofSettings (settings : List Setting) : Update :=
  settings.foldl set {}

end Query.Update

namespace Query

/-- The updated query. A filter that is set to a node of another type is refused. -/
def update (q : Query) (u : Update) : Except NodeError Query :=
  let filter := u.filter.apply q.filter
  match (filter.map Node.type).filter (· != .boolean) with
  | some type => .error (.filterType type)
  | none =>
    .ok {
      filter
      orderBy := u.orderBy.apply q.orderBy
      top := u.top.apply q.top
      skip := u.skip.apply q.skip
      format := u.format.apply q.format
      inlineCount := u.inlineCount.apply q.inlineCount
      select := u.select.apply q.select }

end Query

end RowQuery
