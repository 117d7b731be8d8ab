import RowQuery.Command.Error
import RowQuery.Node.Text
import RowQuery.Query.Update

/-!
The command that builds a query. Columns are read by method, normalized
against a registry and turned into nodes, filters before sort keys before
columns of the projection, as those of expressions written by hand would be.
-/

namespace RowQuery

structure QueryOptions where
  equals : List String
  orderBy : List String
  top : Option Nat
  skip : Nat
  format : Option String
  inlineCount : CountMode
  select : List String

namespace QueryOptions

def rowParameter : String := "row"

abbrev Building := Registering CommandError

def step {ε α : Type} (part : ε → CommandError) (result : Except ε α) : Building α :=
  Registering.pureStep (CommandError.lift part result)

def columnRead (name : String) (type : ColumnType) : Expr :=
  .column (.row rowParameter) type name

def comparison (spec : EqualitySpec) : Expr :=
  .binary .eq (columnRead spec.name spec.type) (.constant spec.value spec.type)

/-- Joins comparisons from left to right. -/
def conjunction : List Expr → Option Expr
  | [] => none
  | e :: rest => some (rest.foldl (fun left right => .binary .and left right) e)

def readEqualities : List String → Except ArgumentError (List EqualitySpec)
  | [] => .ok []
  | spec :: rest => do
    let e ← EqualitySpec.read spec
    let es ← readEqualities rest
    return e :: es

def normalized (e : Expr) : Building Expr :=
  fun r =>
    let (result, r') := e.normalizeIn r
    (CommandError.lift .normalize result, r')

def filterNode (predicate : Option Expr) : Building (Change (Option Node)) :=
  match predicate with
  | none => return .keep
  | some e => do
    let n ← normalized e
    let node ← step .counterpart n.toNode
    return .set (some node)

def sortKey (spec : String) : Building SortKey := do
  let c ← step .argument (ColumnSpec.read spec)
  let e ← normalized (columnRead c.name (c.type.getD .string))
  step .counterpart (e.toSortKey c.direction)

def sortKeys : List String → Building (List SortKey)
  | [] => return []
  | spec :: rest => do
    let k ← sortKey spec
    let ks ← sortKeys rest
    return k :: ks

/-- A column of the projection. An asterisk stands for all of them. -/
def selectColumn (spec : String) : Building SelectColumn := do
  if Text.trimmed spec = "*" then return .wildcard
  let c ← step .argument (ColumnSpec.read spec)
  let e ← normalized (columnRead c.name (c.type.getD .any))
  step .counterpart e.toSelectColumn

def selectColumns : List String → Building (List SelectColumn)
  | [] => return []
  | spec :: rest => do
    let c ← selectColumn spec
    let cs ← selectColumns rest
    return c :: cs

def build (o : QueryOptions) : Building Query := do
  let equalities ← step .argument (readEqualities o.equals)
  let filter ← filterNode (conjunction (equalities.map comparison))
  let orderBy ← sortKeys o.orderBy
  let select ← selectColumns o.select
  let update : Query.Update := {
    filter
    orderBy := .set orderBy
    top := .set o.top
    skip := .set o.skip
    format := .set o.format
    inlineCount := .set o.inlineCount
    select := .set select }
  step .node (Query.empty.update update)

def buildText (o : QueryOptions) : Building String := do
  let q ← o.build
  match q.text? with
  | some text => return text
  | none => throw .noText

def buildIn (r : Registry) (o : QueryOptions) : Except CommandError Query × Registry :=
  o.build r

end QueryOptions

end RowQuery
