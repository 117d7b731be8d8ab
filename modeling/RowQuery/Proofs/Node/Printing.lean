import RowQuery.Node.Text
import RowQuery.Proofs.Node.Typing
import RowQuery.Query.Update

/-!
Which nodes have a text. A constant has one if it belongs to its type, a cast
if its target is primitive, and every other node if its parts have texts. The
functions that make nodes check no more and no less, so what they make of
nodes with texts has a text again, and so has the node of any expression.
-/

namespace RowQuery

/-- Primitive types, and no others, have keywords. -/
theorem EdmType.isSome_keyword? (t : EdmType) : t.keyword?.isSome = t.isPrimitive := by
  cases t <;> rfl

/-- Null is a constant of every type, any other value of its own type only. Structured values are
no constants. -/
theorem Value.isSome_literal? (v : Value) (t : EdmType) :
    (v.literal? t).isSome = (v.isNull || (t != .complex && v.type? == some t)) := by
  cases v <;> cases t <;> rfl

section Parts

variable (op : BinaryOp) (uop : UnaryOp) (l r n : Node) (ns : List Node) (k : SortKey)
variable (ks : List SortKey) (v : Value) (t : EdmType) (q : Query)

@[simp] theorem Node.isSome_text?_binary :
    (Node.binary op l r).text?.isSome = (l.text?.isSome && r.text?.isSome) := by
  simp only [Node.text?]
  cases l.text? <;> cases r.text? <;> rfl

@[simp] theorem Node.isSome_text?_unary : (Node.unary uop n).text?.isSome = n.text?.isSome := by
  simp only [Node.text?]
  cases n.text? <;> rfl

@[simp] theorem Node.isSome_texts? :
    (Node.texts? ns).isSome = ns.all fun n => n.text?.isSome := by
  induction ns with
  | nil => rfl
  | cons n rest ih =>
    rw [Node.texts?, List.all_cons, ← ih]
    cases n.text? <;> cases Node.texts? rest <;> rfl

@[simp] theorem Node.isSome_text?_call (f : QueryFunction) :
    (Node.call f ns t).text?.isSome = ns.all fun n => n.text?.isSome := by
  rw [← Node.isSome_texts?]
  simp only [Node.text?]
  cases Node.texts? ns <;> rfl

/-- A constant has a text if it is null or a value of its own primitive type. -/
@[simp] theorem Node.isSome_text?_constant :
    (Node.constant v t).text?.isSome = (v.isNull || (t != .complex && v.type? == some t)) := by
  rw [Node.text?, v.isSome_literal?]

@[simp] theorem Node.isSome_text?_member (path : MemberPath) :
    (Node.member path).text?.isSome = true := by
  rw [Node.text?]
  rfl

/-- A conversion needs the keyword of its target only if it is not implicit. -/
@[simp] theorem Node.isSome_text?_convert :
    (Node.convert n t).text?.isSome = (n.text?.isSome && (n.isImplicit t || t.isPrimitive)) := by
  rw [Node.text?, ← t.isSome_keyword?]
  cases n.text? <;> cases n.isImplicit t <;> cases t.keyword? <;> simp

@[simp] theorem SortKey.isSome_text? : k.text?.isSome = k.operand.text?.isSome := by
  obtain ⟨operand, direction⟩ := k
  simp only [SortKey.text?]
  cases operand.text? <;> rfl

@[simp] theorem SortKey.isSome_texts? :
    (SortKey.texts? ks).isSome = ks.all fun k => k.operand.text?.isSome := by
  induction ks with
  | nil => rfl
  | cons k rest ih =>
    rw [SortKey.texts?, List.all_cons, ← ih, ← k.isSome_text?]
    cases k.text? <;> cases SortKey.texts? rest <;> rfl

@[simp] theorem Node.isSome_text?_sortKey :
    (Node.sortKey k).text?.isSome = k.operand.text?.isSome := by
  rw [Node.text?, k.isSome_text?]

@[simp] theorem Node.isSome_text?_selectColumn (c : SelectColumn) :
    (Node.selectColumn c).text?.isSome = true := by
  rw [Node.text?]
  rfl

/-- A query has parameters if its filter and all of its sort keys have texts. -/
@[simp] theorem Query.isSome_params? :
    q.params?.isSome =
      (q.filter.all (fun n => n.text?.isSome) &&
        q.orderBy.all fun k => k.operand.text?.isSome) := by
  obtain ⟨filter, orderBy, top, skip, format, inlineCount, select⟩ := q
  rw [← SortKey.isSome_texts?, Query.params?]
  cases filter with
  | none => cases SortKey.texts? orderBy <;> rfl
  | some n =>
    rw [Node.filterText?]
    cases htext : n.text? <;> cases SortKey.texts? orderBy <;> simp [htext]

@[simp] theorem Node.isSome_text?_query : (Node.query q).text?.isSome = q.params?.isSome := by
  rw [Node.text?, Option.isSome_map]

end Parts

namespace Node

variable {l r n : Node} {v : Value} {t : EdmType} {op : BinaryOp}

theorem isSome_text?_makeBinary (h : makeBinary l op r = .ok n) (hl : l.text?.isSome = true)
    (hr : r.text?.isSome = true) : n.text?.isSome = true := by
  obtain ⟨-, rfl⟩ := makeBinary_cases h
  simp [hl, hr]

/-- The check on a constant admits only what has a literal. -/
theorem isSome_text?_makeConstant (h : makeConstant v t = .ok n) : n.text?.isSome = true := by
  unfold makeConstant at h
  split at h
  · rename_i hvalue
    cases h
    simp only [Bool.and_eq_true, Bool.or_eq_true] at hvalue
    obtain ⟨hstructured, hnull | htype⟩ := hvalue
    · simp [hnull]
    · simp [hstructured, htype]
  · cases h

theorem isSome_text?_makeConvert (h : makeConvert l t = .ok n) (hl : l.text?.isSome = true) :
    n.text?.isSome = true := by
  obtain ⟨hprimitive, rfl⟩ := makeConvert_cases h
  simp [hl, hprimitive]

theorem isSome_text?_ofConstant {type : ColumnType} (h : ofConstant v type = .ok n) :
    n.text?.isSome = true := by
  unfold ofConstant at h
  split at h
  · exact isSome_text?_makeConstant (orCounterpart_eq_ok_iff.mp h)
  · split at h
    · split at h
      · exact isSome_text?_makeConstant (orCounterpart_eq_ok_iff.mp h)
      · cases h
    · cases h

/-- The conversion of an operand to the type of the other one is implicit and needs no keyword. -/
theorem isSome_text?_ofOperation (h : ofOperation op l r = .ok n) (hl : l.text?.isSome = true)
    (hr : r.text?.isSome = true) : n.text?.isSome = true := by
  rcases ofOperation_cases h with ⟨-, rfl⟩ | ⟨-, hwidens, rfl⟩ | ⟨-, hwidens, rfl⟩
  · simp [hl, hr]
  · simp [hl, hr, isImplicit, hwidens]
  · simp [hl, hr, isImplicit, hwidens]

theorem isSome_text?_ofConversion (h : ofConversion l t = .ok n) (hl : l.text?.isSome = true) :
    n.text?.isSome = true := by
  rcases ofConversion_cases h with ⟨-, rfl⟩ | ⟨hprimitive, rfl⟩
  · exact hl
  · simp [hl, hprimitive]

theorem isSome_text?_ofMethod? {name : String} {args : List Node}
    (h : ofMethod? name r args = some n) (hr : r.text?.isSome = true)
    (hargs : ∀ a ∈ args, a.text?.isSome = true) : n.text?.isSome = true := by
  unfold ofMethod? at h
  split at h <;> cases h <;> simp_all

end Node

mutual

/-- The node of an expression has a text, whatever the column types in the expression are. -/
theorem Expr.isSome_text?_toNode {n : Node} (e : Expr) (h : e.toNode = .ok n) :
    n.text?.isSome = true := by
  cases e with
  | parameter name type => cases h
  | constant v type | captured name v type => exact Node.isSome_text?_ofConstant h
  | call method receiver args =>
    cases method with
    | rowGet type => cases h
    | named name type =>
      obtain ⟨r, hr, h⟩ := bind_eq_ok_iff.mp h
      obtain ⟨ns, hns, h⟩ := bind_eq_ok_iff.mp h
      split at h
      · rename_i m hm
        cases h
        exact Node.isSome_text?_ofMethod? hm (Expr.isSome_text?_receiverToNode receiver hr)
          (Expr.isSome_text?_toNodes args hns)
      · cases h
  | member receiver m =>
    obtain ⟨p, -, h⟩ := bind_eq_ok_iff.mp h
    cases h
    simp
  | binary op left right =>
    obtain ⟨l, hl, h⟩ := bind_eq_ok_iff.mp h
    obtain ⟨r, hr, h⟩ := bind_eq_ok_iff.mp h
    exact Node.isSome_text?_ofOperation h (Expr.isSome_text?_toNode left hl)
      (Expr.isSome_text?_toNode right hr)
  | unary op operand =>
    obtain ⟨m, hm, h⟩ := bind_eq_ok_iff.mp h
    cases h
    simpa using Expr.isSome_text?_toNode operand hm
  | convert operand type =>
    obtain ⟨m, hm, h⟩ := bind_eq_ok_iff.mp h
    exact Node.isSome_text?_ofConversion h (Expr.isSome_text?_toNode operand hm)

theorem Expr.isSome_text?_receiverToNode {n : Node} {call : String} (receiver : Option Expr)
    (h : Expr.receiverToNode call receiver = .ok n) : n.text?.isSome = true := by
  cases receiver with
  | none => cases h
  | some e => exact Expr.isSome_text?_toNode e h

theorem Expr.isSome_text?_toNodes {ns : List Node} (es : List Expr)
    (h : Expr.toNodes es = .ok ns) : ∀ n ∈ ns, n.text?.isSome = true := by
  cases es with
  | nil =>
    cases h
    simp
  | cons e rest =>
    obtain ⟨n, hn, h⟩ := bind_eq_ok_iff.mp h
    obtain ⟨ms, hms, h⟩ := bind_eq_ok_iff.mp h
    cases h
    simp only [List.forall_mem_cons]
    exact ⟨Expr.isSome_text?_toNode e hn, Expr.isSome_text?_toNodes rest hms⟩

end

theorem Expr.isSome_text?_toSortKey {e : Expr} {direction : Direction} {k : SortKey}
    (h : e.toSortKey direction = .ok k) : k.operand.text?.isSome = true := by
  obtain ⟨n, hn, h⟩ := bind_eq_ok_iff.mp h
  cases h
  exact Expr.isSome_text?_toNode e hn

end RowQuery
