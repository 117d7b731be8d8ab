import RowQuery.Proofs.Literal.Nesting
import RowQuery.Proofs.Node.Parts

/-!
Node texts close the quotes and parentheses that they open, and their commas
stand within parentheses. Only names could break this, because they are written
as they are, and so could the texts in a query.
-/

namespace RowQuery

def MemberPath.names (p : MemberPath) : List String :=
  p.members.map Member.name

def SelectColumn.names (c : SelectColumn) : List String :=
  match c.path with
  | some p => p.names
  | none => []

namespace Node

/-- The names that the node writes itself: those of members and of a type. -/
def ownNames : Node → List String
  | .constant (.typeRef (.named name)) _ => [name]
  | .member path => path.names
  | .selectColumn column => column.names
  | _ => []

def names (n : Node) : List String :=
  n.parts.flatMap ownNames

/-- The node is no query, and its own names open, close and separate nothing. -/
structure IsPlain (n : Node) : Prop where
  noQuery : ∀ q, n ≠ .query q
  names : ∀ name ∈ n.ownNames, Text.IsUnmarked name.toList

theorem isPlain_of_mem_parts {n m : Node} (hquery : ∀ q, .query q ∉ n.parts)
    (hnames : ∀ name ∈ n.names, Text.IsUnmarked name.toList) (hm : m ∈ n.parts) : m.IsPlain where
  noQuery := by
    rintro q rfl
    exact hquery q hm
  names := fun name hname => hnames name (List.mem_flatMap.mpr ⟨m, hm, hname⟩)

end Node

section Leaves

variable {b : Bool}

theorem MemberPath.nested_text (p : MemberPath)
    (hnames : ∀ name ∈ p.names, Text.IsUnmarked name.toList) : Text.Nested b p.text.toList :=
  Text.nested_intercalate (.of_isUnmarked (by decide)) fun name hname =>
    .of_isUnmarked (hnames name hname)

theorem SelectColumn.nested_text (c : SelectColumn)
    (hnames : ∀ name ∈ c.names, Text.IsUnmarked name.toList) : Text.Nested b c.text.toList := by
  obtain ⟨path, allColumns⟩ := c
  cases path with
  | none => cases allColumns <;> exact .of_isUnmarked (by decide)
  | some p =>
    have hpath : Text.Nested b p.text.toList := p.nested_text hnames
    cases allColumns with
    | false => exact hpath
    | true => exact Text.nested_append hpath (.of_isUnmarked (by decide))

theorem BinaryOp.isUnmarked_keyword (op : BinaryOp) : Text.IsUnmarked op.keyword.toList := by
  cases op <;> decide

theorem UnaryOp.isUnmarked_keyword (op : UnaryOp) : Text.IsUnmarked op.keyword.toList := by
  cases op <;> decide

theorem QueryFunction.isUnmarked_keyword (f : QueryFunction) :
    Text.IsUnmarked f.keyword.toList := by
  cases f <;> decide

theorem EdmType.isUnmarked_keyword? {t : EdmType} {keyword : String}
    (h : t.keyword? = some keyword) : Text.IsUnmarked keyword.toList := by
  cases t <;> cases h <;> decide

theorem SortKey.isUnmarked_directionText (d : Direction) :
    Text.IsUnmarked (SortKey.directionText d).toList := by
  cases d <;> decide

theorem BinaryOp.nested_wrap (op : BinaryOp) (n : Node) {text : String}
    (htext : Text.Nested false text.toList) : Text.Nested false (op.wrap n text).toList := by
  cases n with
  | binary child l r =>
    rw [wrap]
    split
    · exact Text.nested_inParentheses "" (by decide) htext.withCommas
    · exact htext
  | _ => exact htext

end Leaves

mutual

/-- The text of a node closes what it opens and has no commas outside parentheses and quotes, if its
parts are no queries and write names without such characters. The commas of a call stand between its
arguments, within its parentheses. -/
theorem Node.nested_text {t : String} (n : Node) (hparts : ∀ m ∈ n.parts, m.IsPlain)
    (ht : n.text? = some t) : Text.Nested false t.toList := by
  have hself : n.IsPlain := hparts n n.self_mem_parts
  have hspace : Text.Nested false " ".toList := .of_isUnmarked (by decide)
  have hseparator : Text.Nested true ", ".toList := .comma (.of_isUnmarked (by decide))
  cases n with
  | binary op left right =>
    simp only [Node.parts, List.forall_mem_cons, List.forall_mem_append] at hparts
    obtain ⟨l, hl, ht⟩ := Option.bind_eq_some_iff.mp ht
    obtain ⟨r, hr, ht⟩ := Option.bind_eq_some_iff.mp ht
    cases ht
    have hleft := op.nested_wrap left (Node.nested_text left hparts.2.1 hl)
    have hright := op.nested_wrap right (Node.nested_text right hparts.2.2 hr)
    have hkeyword := Text.Nested.of_isUnmarked (b := false) op.isUnmarked_keyword
    exact Text.nested_append (Text.nested_append (Text.nested_append
      (Text.nested_append hleft hspace) hkeyword) hspace) hright
  | unary op operand =>
    simp only [Node.parts, List.forall_mem_cons] at hparts
    obtain ⟨u, hu, ht⟩ := Option.bind_eq_some_iff.mp ht
    cases ht
    have hkeyword := Text.Nested.of_isUnmarked (b := false) op.isUnmarked_keyword
    exact Text.nested_append (Text.nested_append hkeyword hspace)
      (Node.nested_text operand hparts.2 hu)
  | call function args type =>
    simp only [Node.parts, List.forall_mem_cons] at hparts
    obtain ⟨ts, hts, ht⟩ := Option.bind_eq_some_iff.mp ht
    cases ht
    exact Text.nested_inParentheses _ function.isUnmarked_keyword
      (Text.nested_intercalate hseparator fun u hu =>
        (Node.nested_texts args hparts.2 hts u hu).withCommas)
  | constant value type =>
    rw [Node.text?] at ht
    refine Value.nested_literal? ht fun name hvalue => ?_
    subst hvalue
    exact hself.names name List.mem_cons_self
  | member path =>
    cases ht
    exact path.nested_text hself.names
  | convert operand type =>
    simp only [Node.parts, List.forall_mem_cons] at hparts
    obtain ⟨u, hu, ht⟩ := Option.bind_eq_some_iff.mp ht
    have hoperand := Node.nested_text operand hparts.2 hu
    by_cases himplicit : operand.isImplicit type = true
    · rw [if_pos himplicit] at ht
      cases ht
      exact hoperand
    · rw [if_neg himplicit] at ht
      obtain ⟨keyword, hkeyword, ht⟩ := Option.bind_eq_some_iff.mp ht
      cases ht
      have hinner : Text.Nested true (u ++ ", " ++ keyword).toList :=
        Text.nested_append (Text.nested_append hoperand.withCommas hseparator)
          (.of_isUnmarked (EdmType.isUnmarked_keyword? hkeyword))
      have htext : "cast(" ++ u ++ ", " ++ keyword ++ ")" =
          "cast" ++ "(" ++ (u ++ ", " ++ keyword) ++ ")" := by
        rw [← String.toList_inj]
        simp
      rw [htext]
      exact Text.nested_inParentheses "cast" (by decide) hinner
  | sortKey key =>
    obtain ⟨operand, direction⟩ := key
    simp only [Node.parts, List.forall_mem_cons] at hparts
    rw [Node.text?] at ht
    obtain ⟨u, hu, ht⟩ := Option.bind_eq_some_iff.mp ht
    cases ht
    exact Text.nested_append (Node.nested_text operand hparts.2 hu)
      (.of_isUnmarked (SortKey.isUnmarked_directionText direction))
  | selectColumn column =>
    cases ht
    exact column.nested_text hself.names
  | query q => exact absurd rfl (hself.noQuery q)

theorem Node.nested_texts {ts : List String} (ns : List Node)
    (hparts : ∀ m ∈ Node.allParts ns, m.IsPlain) (hts : Node.texts? ns = some ts) :
    ∀ t ∈ ts, Text.Nested false t.toList := by
  cases ns with
  | nil =>
    cases hts
    simp
  | cons n rest =>
    simp only [Node.allParts, List.forall_mem_append] at hparts
    obtain ⟨t, ht, hts⟩ := Option.bind_eq_some_iff.mp hts
    obtain ⟨us, hus, hts⟩ := Option.bind_eq_some_iff.mp hts
    cases hts
    rw [List.forall_mem_cons]
    exact ⟨Node.nested_text n hparts.1 ht, Node.nested_texts rest hparts.2 hus⟩

end

/-- The text of a sort key has no commas outside parentheses and quotes. -/
theorem SortKey.nested_text {k : SortKey} {t : String}
    (hparts : ∀ m ∈ k.operand.parts, m.IsPlain) (ht : k.text? = some t) :
    Text.Nested false t.toList := by
  refine Node.nested_text (.sortKey k) ?_ (by rwa [Node.text?])
  have hself : (Node.sortKey k).IsPlain := ⟨by simp, by simp [Node.ownNames]⟩
  obtain ⟨operand, direction⟩ := k
  rw [Node.parts, List.forall_mem_cons]
  exact ⟨hself, hparts⟩

end RowQuery
