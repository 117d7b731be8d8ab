import RowQuery.Proofs.Node.Typing

/-!
The static type of an expression against its values. Arithmetic is given the
static type of its left operand, but its value has the wider type of the two
operands. So the static type accepts a value unless a left operand, somewhere
on the way down, was of a narrower type than the right one; the value is then
of a type to which the static type widens.
-/

namespace RowQuery

namespace EdmType

variable {s t u : EdmType}

theorem widensTo_trans (hst : s.widensTo t = true) (htu : t.widensTo u = true) :
    s.widensTo u = true := by
  cases s <;> cases t <;> simp [widensTo, wider] at hst <;>
    cases u <;> simp [widensTo, wider] at htu ⊢

/-- What a type widens to before another one is not what it widens to after it. -/
theorem ne_of_widensTo (hst : s.widensTo t = true) (hne : s ≠ t) (htu : t.widensTo u = true) :
    s ≠ u := by
  rintro rfl
  have hback := (isNumeric_of_widensTo hst hne).2.2
  rw [htu] at hback
  cases hback

end EdmType

namespace Value

variable {l r v : Value} {s t u : EdmType} {op : BinaryOp}

/-- The type of the first value widens to that of the second, which is another one. -/
def Narrower (l r : Value) : Prop :=
  ∃ s t, l.type? = some s ∧ r.type? = some t ∧ s ≠ t ∧ s.widensTo t = true

theorem narrower_iff (hl : l.type? = some s) (hr : r.type? = some t) :
    l.Narrower r ↔ s ≠ t ∧ s.widensTo t = true := by
  constructor
  · rintro ⟨s', t', hs, ht, h⟩
    obtain rfl : s = s' := Option.some.inj (hl.symm.trans hs)
    obtain rfl : t = t' := Option.some.inj (hr.symm.trans ht)
    exact h
  · exact fun h => ⟨s, t, hl, hr, h⟩

/-- The common type is the type of one of the sides, to which that of the other widens. -/
theorem commonType?_cases (h : commonType? s t = some u) :
    (s.widensTo t = true ∧ u = t) ∨ (s.widensTo t = false ∧ t.widensTo s = true ∧ u = s) := by
  unfold commonType? at h
  split at h
  · rename_i hwidens
    cases h
    exact Or.inl ⟨hwidens, rfl⟩
  · rename_i hwidens
    split at h
    · rename_i hback
      cases h
      exact Or.inr ⟨by simpa using hwidens, hback, rfl⟩
    · cases h

/-- An operation that is no comparison keeps the type of its left value, unless the right one is of
a wider type. -/
theorem applyBinary_type_cases (hop : op.isComparison = false) (h : applyBinary op l r = .ok v)
    (hl : l.type? = some s) :
    (v.type? = some s ∧ ¬ l.Narrower r) ∨
      ∃ t, v.type? = some t ∧ s ≠ t ∧ s.widensTo t = true ∧ l.Narrower r := by
  obtain ⟨s', t, u, hs', ht, hu, hv⟩ := applyBinary_type hop h
  obtain rfl : s = s' := Option.some.inj (hl.symm.trans hs')
  rw [narrower_iff hl ht]
  rcases commonType?_cases hu with ⟨hwidens, rfl⟩ | ⟨hwidens, -, rfl⟩
  · by_cases hsame : s = u
    · exact Or.inl ⟨hsame ▸ hv, fun h => h.1 hsame⟩
    · exact Or.inr ⟨u, hv, hsame, hwidens, hsame, hwidens⟩
  · exact Or.inl ⟨hv, fun h => by simp [hwidens] at h⟩

/-- Nothing structured comes out of arithmetic. -/
theorem applyBinary_type_ne_complex (hop : op.isComparison = false)
    (h : applyBinary op l r = .ok v) : v.type? ≠ some .complex := by
  unfold applyBinary at h
  rw [if_neg (by simp [hop])] at h
  split at h
  · cases h
    simp [type?]
  · obtain ⟨_, _, s, _, -, -, -, hs, -, hv⟩ := arithmetic_widened h
    rw [hv]
    exact fun hcomplex => EdmType.ne_complex_of_isNumeric hs (Option.some.inj hcomplex)

end Value

namespace ColumnType

variable {c d : ColumnType} {l r v : Value}

/-- Values are not of a narrower type than others whose type widens to theirs. -/
theorem not_narrower (hany : c ≠ .any) (hl : c.accepts l = true) (hr : d.accepts r = true)
    (hwidens : c.edmType.isNumeric = true → d.edmType.widensTo c.edmType = true) :
    ¬ l.Narrower r := by
  rintro ⟨s, t, hs, ht, hne, hst⟩
  obtain ⟨hnumeric, -, hback⟩ := EdmType.isNumeric_of_widensTo hst hne
  obtain rfl := Value.edmType_of_accepts hany hl hs
  have hd := hwidens hnumeric
  by_cases hdany : d = .any
  · have hcomplex := (EdmType.ne_complex_of_isNumeric hnumeric).symm
    rw [hdany] at hd
    cases (EdmType.isNumeric_of_widensTo hd hcomplex).1
  · rw [Value.edmType_of_accepts hdany hr ht, hback] at hd
    cases hd

/-- How a static type stands to a value: it says nothing of it, it accepts it, or the value is of a
type to which the static type widens. The last is so if something has outgrown the static type. -/
inductive Meets (c : ColumnType) (outgrown : Prop) (v : Value) : Prop where
  | untyped (hany : c = .any)
  | accepted (haccepts : c.accepts v = true) (hkept : ¬ outgrown)
  | widened (s : EdmType) (htype : v.type? = some s) (hne : c.edmType ≠ s)
      (hwidens : c.edmType.widensTo s = true) (houtgrown : outgrown)

namespace Meets

variable {p q : Prop} {w : Value} {op : BinaryOp} {uop : UnaryOp}

theorem congr (hpq : p ↔ q) (h : c.Meets p v) : c.Meets q v :=
  propext hpq ▸ h

theorem accepts_iff (h : c.Meets p v) : c.accepts v = true ↔ c = .any ∨ ¬ p := by
  cases h with
  | untyped hany => simp [hany, Value.accepts_any]
  | accepted haccepts hkept => simp [haccepts, hkept]
  | widened s htype hne hwidens houtgrown =>
    have hany : c ≠ .any := by
      rintro rfl
      cases (EdmType.isNumeric_of_widensTo hwidens hne).1
    have hrefused : c.accepts v ≠ true := fun h => hne (Value.edmType_of_accepts hany h htype)
    simp [hrefused, hany, houtgrown]

/-- A value that its static type refuses is of a wider type. -/
theorem type_of_refused (h : c.Meets p v) (hrefused : c.accepts v = false) :
    ∃ s, v.type? = some s ∧ c.edmType ≠ s ∧ c.edmType.widensTo s = true := by
  cases h with
  | untyped hany => simp [hany, Value.accepts_any] at hrefused
  | accepted haccepts => simp [haccepts] at hrefused
  | widened s htype hne hwidens => exact ⟨s, htype, hne, hwidens⟩

/-- The value of an operation that is no comparison, against the static type of its left side. -/
theorem applyBinary (hop : op.isComparison = false) (hl : c.Meets p l)
    (h : Value.applyBinary op l r = .ok v) : c.Meets (p ∨ l.Narrower r) v := by
  obtain ⟨s, -, -, hs, -⟩ := Value.applyBinary_type hop h
  cases hl with
  | untyped hany => exact .untyped hany
  | accepted haccepts hkept =>
    by_cases hany : c = .any
    · exact .untyped hany
    obtain rfl := Value.edmType_of_accepts hany haccepts hs
    rcases Value.applyBinary_type_cases hop h hs with
      ⟨hv, hnarrower⟩ | ⟨t, hv, hne, hwidens, hnarrower⟩
    · have hcomplex : c.edmType ≠ .complex := fun hc =>
        Value.applyBinary_type_ne_complex hop h (hc ▸ hv)
      exact .accepted (Value.accepts_of_type hv hcomplex) (not_or.mpr ⟨hkept, hnarrower⟩)
    · exact .widened t hv hne hwidens (Or.inr hnarrower)
  | widened s' htype hne hwidens houtgrown =>
    rcases Value.applyBinary_type_cases hop h htype with ⟨hv, -⟩ | ⟨t, hv, -, hfurther, -⟩
    · exact .widened s' hv hne hwidens (Or.inl houtgrown)
    · exact .widened t hv (EdmType.ne_of_widensTo hwidens hne hfurther)
        (EdmType.widensTo_trans hwidens hfurther) (Or.inl houtgrown)

theorem applyUnary (hv : c.Meets p v) (h : Value.applyUnary uop v = .ok w) : c.Meets p w := by
  obtain ⟨t, hvt, hwt, hcomplex⟩ := Value.applyUnary_type h
  cases hv with
  | untyped hany => exact .untyped hany
  | accepted haccepts hkept =>
    by_cases hany : c = .any
    · exact .untyped hany
    obtain rfl := Value.edmType_of_accepts hany haccepts hvt
    exact .accepted (Value.accepts_of_type hwt hcomplex) hkept
  | widened s htype hne hwidens houtgrown =>
    exact .widened s (hwt.trans (hvt.symm.trans htype)) hne hwidens houtgrown

end Meets

end ColumnType

namespace Expr

variable {b : Bindings} {v : Value}

/-- Whether a part of an expression declares a type that takes the values it stands for. Of a call
by name, these are the values that the method can give. -/
def DeclaresWell (b : Bindings) : Expr → Prop
  | .parameter name type => ∀ v, b.value? name = some v → type.accepts v = true
  | .constant v type | .captured _ v type => type.accepts v = true
  | .call (.named name type) _ _ => ∀ m v, StringMethod.ofName? name = some m →
      v.type? = some m.resultType → type.accepts v = true
  | _ => True

/-- Some arithmetic from which the static type is taken has a left value of a narrower type than its
right value. -/
def OutgrowsType (b : Bindings) : Expr → Prop
  | .binary op left right => op.isBoolean = false ∧
      (left.OutgrowsType b ∨
        ∃ l r, left.evaluate b = .ok l ∧ right.evaluate b = .ok r ∧ l.Narrower r)
  | .unary _ operand => operand.OutgrowsType b
  | _ => False

/-- Arithmetic on a left operand of a numeric type, to which the type of the right one does not
widen. -/
def isWidening : Expr → Bool
  | .binary op left right => !op.isBoolean && left.columnType.edmType.isNumeric &&
      !right.columnType.edmType.widensTo left.columnType.edmType
  | _ => false

/-- The value of an operation, for the static type of the left side and any right side. -/
theorem meets_of_applyTo {op : BinaryOp} {left right : Expr} {l : Value}
    (hleft : left.columnType.Meets (left.OutgrowsType b) l) (hl : left.evaluate b = .ok l)
    (hv : op.applyTo l (right.evaluate b) = .ok v) :
    (Expr.binary op left right).columnType.Meets
      ((Expr.binary op left right).OutgrowsType b) v := by
  cases hop : op.isBoolean with
  | true =>
    have htype := BinaryOp.applyTo_type_of_isBoolean hop hv
    have hcolumn : (Expr.binary op left right).columnType = .boolean := by simp [columnType, hop]
    rw [hcolumn]
    exact .accepted (Value.accepts_of_type htype (by decide))
      (by simp [OutgrowsType, hop])
  | false =>
    have hlogic : ¬(op = .and ∨ op = .or) ∧ op.isComparison = false := by
      simpa [op.isBoolean_eq] using hop
    rcases BinaryOp.applyTo_cases hv with ⟨hlogical, -⟩ | ⟨-, r, hr, happly⟩
    · exact absurd hlogical hlogic.1
    have hcolumn : (Expr.binary op left right).columnType = left.columnType := by
      simp [columnType, hop]
    rw [hcolumn]
    apply (hleft.applyBinary hlogic.2 happly).congr
    simp [OutgrowsType, hop, hl, hr]

/-- The value of an expression against its static type, which for an operation is that of the left
operand, whatever the type of the right one. -/
theorem meets_columnType {v : Value} (e : Expr)
    (hdeclared : ∀ d ∈ e.nodes, d.isDeclaredRead = false)
    (hwell : ∀ d ∈ e.nodes, d.DeclaresWell b) (hv : e.evaluate b = .ok v) :
    e.columnType.Meets (e.OutgrowsType b) v := by
  cases e with
  | parameter name type =>
    have hself := hwell _ (self_mem_nodes _)
    simp only [evaluate] at hv
    split at hv
    · rename_i w hw
      cases hv
      exact .accepted (hself v hw) id
    · cases hv
  | constant w type | captured name w type =>
    cases hv
    exact .accepted (hwell _ (self_mem_nodes _)) id
  | call method receiver args =>
    have hself := hwell _ (self_mem_nodes _)
    obtain ⟨vr, -, hv⟩ := bind_eq_ok_iff.mp hv
    obtain ⟨vs, -, hv⟩ := bind_eq_ok_iff.mp hv
    cases method with
    | rowGet type =>
      obtain ⟨row, -, hv⟩ := bind_eq_ok_iff.mp hv
      split at hv
      · exact .accepted (Row.getAs_eq_ok_iff.mp (EvalError.ofRead_eq_ok_iff.mp hv)).2 id
      · cases hv
    | named name type =>
      obtain ⟨text, m, -, hm, hvalue⟩ := Value.callMethod_cases hv
      exact .accepted (hself m v hm (StringMethod.apply_type hvalue)) id
  | member receiver m =>
    obtain ⟨vr, -, hv⟩ := bind_eq_ok_iff.mp hv
    obtain ⟨row, -, hv⟩ := bind_eq_ok_iff.mp hv
    cases m with
    | declared name type => simp [isDeclaredRead, nodes] at hdeclared
    | row p =>
      have hread := EvalError.ofRead_eq_ok_iff.mp hv
      exact .accepted (Property.accepts_of_typedValueIn hread) id
  | binary op left right =>
    simp only [nodes, List.forall_mem_cons, List.forall_mem_append] at hdeclared hwell
    rw [evaluate_binary] at hv
    obtain ⟨l, hl, hv⟩ := bind_eq_ok_iff.mp hv
    exact meets_of_applyTo (meets_columnType left hdeclared.2.1 hwell.2.1 hl) hl hv
  | unary op operand =>
    simp only [nodes, List.forall_mem_cons] at hdeclared hwell
    obtain ⟨w, hw, hv⟩ := bind_eq_ok_iff.mp hv
    exact (meets_columnType operand hdeclared.2 hwell.2 hw).applyUnary hv
  | convert operand type =>
    obtain ⟨w, -, hv⟩ := bind_eq_ok_iff.mp hv
    exact .accepted (Value.accepts_of_convertTo hv) id

/-- Nothing is outgrown where the right operands of arithmetic have static types that widen to those
of the left ones. -/
theorem not_outgrowsType (e : Expr) (hdeclared : ∀ d ∈ e.nodes, d.isDeclaredRead = false)
    (hwell : ∀ d ∈ e.nodes, d.DeclaresWell b) (hkept : ∀ d ∈ e.nodes, d.isWidening = false) :
    e.columnType = .any ∨ ¬ e.OutgrowsType b := by
  cases e with
  | binary op left right =>
    by_cases hany : (Expr.binary op left right).columnType = .any
    · exact Or.inl hany
    refine Or.inr ?_
    rintro ⟨hop, houtgrown⟩
    have hself := hkept _ (self_mem_nodes _)
    simp only [columnType, hop, Bool.false_eq_true, if_false] at hany
    simp only [nodes, List.forall_mem_cons, List.forall_mem_append] at hdeclared hwell hkept
    have hleft := (not_outgrowsType left hdeclared.2.1 hwell.2.1 hkept.2.1).resolve_left hany
    rcases houtgrown with hbefore | ⟨l, r, hl, hr, hnarrower⟩
    · exact hleft hbefore
    have hlaccepts := (meets_columnType left hdeclared.2.1 hwell.2.1 hl).accepts_iff.mpr
      (Or.inr hleft)
    have hraccepts := (meets_columnType right hdeclared.2.2 hwell.2.2 hr).accepts_iff.mpr
      (not_outgrowsType right hdeclared.2.2 hwell.2.2 hkept.2.2)
    have hwidens : left.columnType.edmType.isNumeric = true →
        right.columnType.edmType.widensTo left.columnType.edmType = true := by
      simpa [isWidening, hop] using hself
    exact ColumnType.not_narrower hany hlaccepts hraccepts hwidens hnarrower
  | unary op operand =>
    simp only [nodes, List.forall_mem_cons] at hdeclared hwell hkept
    exact not_outgrowsType operand hdeclared.2 hwell.2 hkept.2
  | parameter | constant | captured | call | member | convert => exact Or.inr id

/-- The static type accepts the value unless arithmetic has outgrown it. What it refuses is of a
type to which it widens, and it refuses nothing where the right operands of arithmetic have static
types that widen to those of the left ones. -/
theorem accepts_columnType_iff (b : Bindings) (e : Expr) (v : Value)
    (hdeclared : ∀ d ∈ e.nodes, d.isDeclaredRead = false)
    (hwell : ∀ d ∈ e.nodes, d.DeclaresWell b) (hv : e.evaluate b = .ok v) :
    (e.columnType.accepts v = true ↔ e.columnType = .any ∨ ¬ e.OutgrowsType b) ∧
      (e.columnType.accepts v = false → ∃ t, v.type? = some t ∧ e.columnType.edmType ≠ t ∧
        e.columnType.edmType.widensTo t = true) ∧
      ((∀ d ∈ e.nodes, d.isWidening = false) → e.columnType.accepts v = true) := by
  have hmeets := meets_columnType e hdeclared hwell hv
  refine ⟨hmeets.accepts_iff, hmeets.type_of_refused, fun hkept => ?_⟩
  exact hmeets.accepts_iff.mpr (not_outgrowsType e hdeclared hwell hkept)

def spareRoom : Expr :=
  .binary .sub (.column (.row "r") (.of (.primitive .int64) true) "Capacity")
    (.call (.named "Length" (.ofEdm .int32)) (some (.column (.row "r") .string "Label")) [])

def labelledCrate : Bindings :=
  Bindings.empty.bind "r"
    (.row (.ofColumns [("capacity", .int64 40), ("label", .string "fragile")]))

theorem accepts_columnType_iff_spareRoom :
    spareRoom.evaluate labelledCrate = .ok (.int64 33) ∧
      spareRoom.columnType = .of (.primitive .int64) true ∧
      spareRoom.columnType.accepts (.int64 33) = true := by
  have hmethod : StringMethod.ofName? "Length" = some .length := by decide +kernel
  have hvalue : spareRoom.evaluate labelledCrate = .ok (.int64 33) := by
    simp only [spareRoom, column, evaluate, Method.apply, Value.callMethod, hmethod]
    rfl
  have hrow : ∀ w, labelledCrate.value? "r" = some w → ColumnType.row.accepts w = true := by
    intro w hw
    cases hw
    rfl
  have hlength : ∀ m w, StringMethod.ofName? "Length" = some m → w.type? = some m.resultType →
      (ColumnType.ofEdm .int32).accepts w = true := by
    intro m w hm hw
    obtain rfl : .length = m := Option.some.inj (hmethod.symm.trans hm)
    exact Value.accepts_of_type hw (by decide)
  have hname : ∀ name, ColumnType.string.accepts (.string name) = true := fun _ => rfl
  have hwell : ∀ d ∈ spareRoom.nodes, d.DeclaresWell labelledCrate := by
    simpa [spareRoom, column, row, ofName, nodes, receiverNodes, allNodes, DeclaresWell, hname]
      using ⟨hrow, hlength, hrow⟩
  have hlaws := accepts_columnType_iff labelledCrate spareRoom _ (by decide) hwell hvalue
  exact ⟨hvalue, rfl, hlaws.2.2 (by decide)⟩

def mixedSum : Expr :=
  .binary .add (.ofValue (.int32 1)) (.ofValue (.int64 1))

/-- The sum has 64 bits, as the node that stands for it says; its static type has 32. -/
theorem columnType_mixedSum :
    (∀ d ∈ mixedSum.nodes, d.isDeclaredRead = false ∧ d.DeclaresWell .empty) ∧
      mixedSum.evaluate .empty = .ok (.int64 2) ∧
      mixedSum.columnType = .ofEdm .int32 ∧
      mixedSum.columnType.accepts (.int64 2) = false ∧
      mixedSum.toNode.map Node.type = .ok .int64 := by
  refine ⟨?_, rfl, rfl, rfl, rfl⟩
  simp only [mixedSum, ofValue, nodes, List.cons_append, List.nil_append, List.forall_mem_cons]
  exact ⟨⟨rfl, trivial⟩, ⟨rfl, rfl⟩, ⟨rfl, rfl⟩, by simp⟩

end Expr

end RowQuery
