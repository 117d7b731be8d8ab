import RowQuery.Proofs.Outline.Reading

/-!
What texts tell apart. Binary operations have the same text exactly when they
differ in the grouping of chains only, and unary operators before operands do
not change that. A unary operator before an operation, however, has the text
of one before the left operand, unless that operand stands in parentheses.
-/

namespace RowQuery

namespace Outline

def hasSigns : Outline → Bool
  | .leaf _ => false
  | .unary _ _ => true
  | .binary _ left right => left.hasSigns || right.hasSigns

variable {s t : Outline}

theorem signsOperation_of_hasSigns (h : t.hasSigns = false) : t.signsOperation = false := by
  induction t with
  | leaf name => rfl
  | unary op operand ih => cases h
  | binary op left right ihl ihr =>
    simp only [hasSigns, Bool.or_eq_false_iff] at h
    simp [signsOperation, ihl h.1, ihr h.2]

/-- Outlines that are read back have the same text only if they are read as the same outline. -/
theorem text_eq_iff_leftRotated (hsnames : ∀ x ∈ s.names, isPlainName x = true)
    (htnames : ∀ x ∈ t.names, isPlainName x = true) (hs : s.signsOperation = false)
    (ht : t.signsOperation = false) : s.text = t.text ↔ s.leftRotated = t.leftRotated := by
  constructor
  · intro h
    have hread := read?_text s hsnames hs
    rw [h, read?_text t htnames ht] at hread
    exact (Option.some.inj hread).symm
  · intro h
    exact (leftRotated_eq_iff.mp h).text_eq.1

/-- The operand of a unary operator is not put in parentheses, so the operator could as well belong
to the left operand, as long as the operation does not put that one in parentheses, which make a
longer text. -/
theorem text_unary_binary_eq_iff (uop : UnaryOp) (op : BinaryOp) (left right : Outline) :
    (unary uop (binary op left right)).text = (binary op (unary uop left) right).text ↔
      op.wraps left = false := by
  have hsigned : op.wraps (.unary uop left) = false := rfl
  constructor
  · intro h
    cases hwraps : op.wraps left with
    | false => rfl
    | true =>
      have hclosing : ")".length = 1 := rfl
      have hlength := congrArg String.length h
      simp [text, BinaryOp.wrapText, hsigned, hwraps] at hlength
      omega
  · intro hwraps
    simp [text, BinaryOp.wrapText, hsigned, hwraps, String.append_assoc]

end Outline

namespace Node

variable {n m : Node} {s t : Outline}

theorem text?_eq_iff_text_eq (hn : n.outline? = some s) (hm : m.outline? = some t) :
    n.text? = m.text? ↔ s.text = t.text := by
  rw [(text?_of_outline? n s hn).1, (text?_of_outline? m t hm).1, Option.some.injEq]

end Node

section BinaryOperations

/-- Binary operations are read back from their text with their chains regrouped to the left, which
is all that the text does not show. -/
theorem Node.read?_text_eq_leftRotated (n m : Node) (s t : Outline) (hn : n.outline? = some s)
    (hm : m.outline? = some t) (hs : s.hasSigns = false) (ht : t.hasSigns = false) :
    (∃ text, n.text? = some text ∧ Outline.read? text = some s.leftRotated) ∧
      s.Regroups s.leftRotated ∧ (n.text? = m.text? ↔ s.leftRotated = t.leftRotated) := by
  obtain ⟨hntext, hsnames⟩ := text?_of_outline? n s hn
  obtain ⟨-, htnames⟩ := text?_of_outline? m t hm
  have hsread := Outline.signsOperation_of_hasSigns hs
  have htread := Outline.signsOperation_of_hasSigns ht
  refine ⟨?_, Outline.regroups_leftRotated s, ?_⟩
  · exact ⟨s.text, hntext, Outline.read?_text s hsnames hsread⟩
  · rw [text?_eq_iff_text_eq hn hm]
    exact Outline.text_eq_iff_leftRotated hsnames htnames hsread htread

def Node.ofName (name : String) (type : EdmType) : Node :=
  .member (.ofMember (.declared name type))

def Node.rest : Node :=
  .binary .sub (.ofName "Price" .int32) (.binary .add (.ofName "Rebate" .int32)
    (.binary .mul (.ofName "Items" .int32)
      (.binary .sub (.ofName "Fee" .int32) (.ofName "Tax" .int32))))

def Node.restRegrouped : Node :=
  .binary .add (.binary .sub (.ofName "Price" .int32) (.ofName "Rebate" .int32))
    (.binary .mul (.ofName "Items" .int32)
      (.binary .sub (.ofName "Fee" .int32) (.ofName "Tax" .int32)))

def Outline.fees : Outline :=
  .binary .mul (.leaf "Items") (.binary .sub (.leaf "Fee") (.leaf "Tax"))

theorem Node.read?_text_eq_leftRotated_rest :
    Node.rest.outline? =
        some (.binary .sub (.leaf "Price") (.binary .add (.leaf "Rebate") .fees)) ∧
      Node.restRegrouped.outline? =
        some (.binary .add (.binary .sub (.leaf "Price") (.leaf "Rebate")) .fees) ∧
      Node.rest.text? = some "Price sub Rebate add Items mul (Fee sub Tax)" ∧
      (∃ text, Node.rest.text? = some text ∧
        Outline.read? text =
          some (.binary .add (.binary .sub (.leaf "Price") (.leaf "Rebate")) .fees)) ∧
      Node.rest.text? = Node.restRegrouped.text? := by
  have hrest : Node.rest.outline? =
      some (.binary .sub (.leaf "Price") (.binary .add (.leaf "Rebate") .fees)) := by decide
  have hregrouped : Node.restRegrouped.outline? =
      some (.binary .add (.binary .sub (.leaf "Price") (.leaf "Rebate")) .fees) := by decide
  obtain ⟨hread, -, htexts⟩ := Node.read?_text_eq_leftRotated Node.rest Node.restRegrouped _ _
    hrest hregrouped rfl rfl
  exact ⟨hrest, hregrouped, by decide, hread, htexts.mpr rfl⟩

end BinaryOperations

section UnaryOperators

/-- Where unary operators stand before operands only, nodes have the same text exactly when they
differ in the grouping of chains only. A unary operator before an operation has the text of one
before the left operand, unless the operation puts that operand in parentheses. -/
theorem Node.text?_eq_iff_regroups (n m : Node) (s t : Outline) (hn : n.outline? = some s)
    (hm : m.outline? = some t) :
    (s.signsOperation = false → t.signsOperation = false → (n.text? = m.text? ↔ s.Regroups t)) ∧
      ∀ uop op left right, s = .unary uop (.binary op left right) →
        t = .binary op (.unary uop left) right → (n.text? = m.text? ↔ op.wraps left = false) := by
  obtain ⟨-, hsnames⟩ := text?_of_outline? n s hn
  obtain ⟨-, htnames⟩ := text?_of_outline? m t hm
  rw [text?_eq_iff_text_eq hn hm]
  constructor
  · intro hs ht
    rw [Outline.text_eq_iff_leftRotated hsnames htnames hs ht, Outline.leftRotated_eq_iff]
  · rintro uop op left right rfl rfl
    exact Outline.text_unary_binary_eq_iff uop op left right

def Node.notBoth : Node :=
  .unary .not (.binary .and (.ofName "A" .boolean) (.ofName "B" .boolean))

def Node.notFirst : Node :=
  .binary .and (.unary .not (.ofName "A" .boolean)) (.ofName "B" .boolean)

/-- Two nodes that differ in more than the grouping of chains have one text. -/
theorem Node.text?_notBoth_eq_notFirst :
    Node.makeBinary (.ofName "A" .boolean) .and (.ofName "B" .boolean) =
        .ok (.binary .and (.ofName "A" .boolean) (.ofName "B" .boolean)) ∧
      Node.makeBinary (.unary .not (.ofName "A" .boolean)) .and (.ofName "B" .boolean) =
        .ok .notFirst ∧
      Node.notBoth.outline? = some (.unary .not (.binary .and (.leaf "A") (.leaf "B"))) ∧
      Node.notFirst.outline? = some (.binary .and (.unary .not (.leaf "A")) (.leaf "B")) ∧
      Node.notBoth.text? = some "not A and B" ∧ Node.notFirst.text? = some "not A and B" ∧
      ¬(Outline.unary .not (.binary .and (.leaf "A") (.leaf "B"))).Regroups
        (.binary .and (.unary .not (.leaf "A")) (.leaf "B")) := by
  refine ⟨rfl, rfl, by decide, by decide, by decide, by decide, ?_⟩
  intro h
  have hrotated := Outline.leftRotated_eq_iff.mpr h
  cases hrotated

def Node.negatedLast : Node :=
  .binary .sub (.ofName "a" .int32)
    (.binary .add (.ofName "b" .int32) (.unary .negate (.ofName "c" .int32)))

def Node.negatedLastRegrouped : Node :=
  .binary .add (.binary .sub (.ofName "a" .int32) (.ofName "b" .int32))
    (.unary .negate (.ofName "c" .int32))

theorem Node.text?_eq_iff_regroups_negatedLast :
    Node.negatedLast.outline? = some (.binary .sub (.leaf "a")
        (.binary .add (.leaf "b") (.unary .negate (.leaf "c")))) ∧
      Node.negatedLastRegrouped.outline? = some (.binary .add (.binary .sub (.leaf "a") (.leaf "b"))
        (.unary .negate (.leaf "c"))) ∧
      Node.negatedLast.text? = Node.negatedLastRegrouped.text? ∧
      Node.notBoth.text? = Node.notFirst.text? := by
  have hlast : Node.negatedLast.outline? = some (.binary .sub (.leaf "a")
      (.binary .add (.leaf "b") (.unary .negate (.leaf "c")))) := by decide
  have hregrouped : Node.negatedLastRegrouped.outline? = some
      (.binary .add (.binary .sub (.leaf "a") (.leaf "b")) (.unary .negate (.leaf "c"))) := by
    decide
  have hboth : Node.notBoth.outline? =
      some (.unary .not (.binary .and (.leaf "A") (.leaf "B"))) := by decide
  have hfirst : Node.notFirst.outline? =
      some (.binary .and (.unary .not (.leaf "A")) (.leaf "B")) := by decide
  have hchains := (Node.text?_eq_iff_regroups Node.negatedLast Node.negatedLastRegrouped _ _
    hlast hregrouped).1 rfl rfl
  have hnegations := (Node.text?_eq_iff_regroups Node.notBoth Node.notFirst _ _
    hboth hfirst).2 .not .and (.leaf "A") (.leaf "B") rfl rfl
  exact ⟨hlast, hregrouped, hchains.mpr (.rotate .sub .add _ _ _ rfl), hnegations.mpr rfl⟩

end UnaryOperators

end RowQuery
