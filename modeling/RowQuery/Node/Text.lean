import RowQuery.Literal
import RowQuery.Node
import RowQuery.Text.Hex

/-!
Query text. Operations put an operand in parentheses only if it is itself an
operation of a looser class, implicit conversions leave no trace, and a query
lists those of its options that are set. There is no text for a constant
outside its type and for a cast to a type without a keyword.
-/

namespace RowQuery

/-- The text of an operand, in parentheses where it needs them. -/
def BinaryOp.wrap (op : BinaryOp) (operand : Node) (text : String) : String :=
  match operand with
  | .binary child _ _ => if op.parenthesizes child then "(" ++ text ++ ")" else text
  | _ => text

def SortKey.directionText : Direction → String
  | .ascending => ""
  | .descending => " " ++ Direction.descending.keyword

def Query.param (name : String) (text : Option String) : List (String × String) :=
  (text.map fun t => (name, t)).toList

def Query.listParam (name : String) (texts : List String) : List (String × String) :=
  if texts.isEmpty then [] else [(name, String.intercalate "," texts)]

def Query.paramsWith (q : Query) (filter : Option String) (orderBy : List String) :
    List (String × String) :=
  param "$filter" filter ++
    listParam "$orderby" orderBy ++
    param "$top" (q.top.map fun n => Text.intText n) ++
    param "$skip" (if q.skip = 0 then none else some (Text.intText q.skip)) ++
    param "$format" q.format ++
    param "$inlinecount" (if q.inlineCount = .none then none else some q.inlineCount.keyword) ++
    listParam "$select" (q.select.map SelectColumn.text)

def Query.encode (params : List (String × String)) : String :=
  "?" ++ String.intercalate "&" (params.map fun (name, t) => name ++ "=" ++ Text.formEncode t)

mutual

def Node.text? : Node → Option String
  | .binary op left right => do
    let l ← left.text?
    let r ← right.text?
    return op.wrap left l ++ " " ++ op.keyword ++ " " ++ op.wrap right r
  | .unary op operand => do
    let t ← operand.text?
    return op.keyword ++ " " ++ t
  | .call function args _ => do
    let ts ← Node.texts? args
    return function.keyword ++ "(" ++ String.intercalate ", " ts ++ ")"
  | .constant value type => value.literal? type
  | .member path => some path.text
  | .convert operand type => do
    let t ← operand.text?
    if operand.isImplicit type then return t
    let keyword ← type.keyword?
    return "cast(" ++ t ++ ", " ++ keyword ++ ")"
  | .sortKey key => key.text?
  | .selectColumn column => some column.text
  | .query q => (q.params?).map Query.encode

def Node.texts? : List Node → Option (List String)
  | [] => some []
  | n :: rest => do
    let t ← n.text?
    let ts ← Node.texts? rest
    return t :: ts

def SortKey.text? : SortKey → Option String
  | ⟨operand, direction⟩ => do
    let t ← operand.text?
    return t ++ SortKey.directionText direction

def SortKey.texts? : List SortKey → Option (List String)
  | [] => some []
  | k :: rest => do
    let t ← k.text?
    let ts ← SortKey.texts? rest
    return t :: ts

/-- The text of a filter, of which there may be none. -/
def Node.filterText? : Option Node → Option (Option String)
  | none => some none
  | some n => do
    let t ← n.text?
    return some t

def Query.params? : Query → Option (List (String × String))
  | ⟨filter, orderBy, top, skip, format, inlineCount, select⟩ => do
    let f ← Node.filterText? filter
    let o ← SortKey.texts? orderBy
    return Query.paramsWith ⟨filter, orderBy, top, skip, format, inlineCount, select⟩ f o

end

def Query.text? (q : Query) : Option String :=
  q.params?.map Query.encode

end RowQuery
