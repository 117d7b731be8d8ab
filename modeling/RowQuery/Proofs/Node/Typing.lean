import RowQuery.Expr.Counterpart
import RowQuery.Proofs.Value.Types

/-!
The static type of a node against the values of the expression that it stands
for. A value is null or has the type of the node, unless it comes from an
untyped read, whose node is taken to be structured.
-/

namespace RowQuery

def Expr.isUntypedRead : Expr → Bool
  | .member _ (.row p) => p.columnType == .any
  | _ => false

/-- A value that a node of a static type may stand for. With `untyped`, any value stands for a
structured one. -/
def Value.Fits (untyped : Prop) (v : Value) (t : EdmType) : Prop :=
  v.isNull = true ∨ v.type? = some t ∨ t = .complex ∧ untyped

namespace Node

variable {a n l r : Node} {t : EdmType} {v : Value} {op : BinaryOp}

theorem orCounterpart_eq_ok_iff {α : Type} {x : Except NodeError α} {y : α} :
    orCounterpart x = .ok y ↔ x = .ok y := by
  unfold orCounterpart
  cases x <;> simp

/-- A constant is made of null or of a value of the type at hand. -/
theorem makeConstant_cases (h : makeConstant v t = .ok a) :
    a = .constant v t ∧ (v.isNull = true ∨ v.type? = some t) := by
  unfold makeConstant at h
  split at h
  · rename_i hvalue
    cases h
    simp only [Bool.and_eq_true, Bool.or_eq_true, beq_iff_eq] at hvalue
    exact ⟨rfl, hvalue.2⟩
  · cases h

theorem ofConstant_cases {type : ColumnType} (h : ofConstant v type = .ok a) :
    ∃ t, a = .constant v t ∧ (v.isNull = true ∨ v.type? = some t) := by
  unfold ofConstant at h
  split at h
  · exact ⟨_, makeConstant_cases (orCounterpart_eq_ok_iff.mp h)⟩
  · split at h
    · split at h
      · exact ⟨_, makeConstant_cases (orCounterpart_eq_ok_iff.mp h)⟩
      · cases h
    · cases h

theorem makeBinary_cases (h : makeBinary l op r = .ok a) :
    l.type = r.type ∧ a = .binary op l r := by
  unfold makeBinary at h
  split at h
  · rename_i htypes
    cases h
    exact ⟨htypes, rfl⟩
  · cases h

theorem makeConvert_cases (h : makeConvert n t = .ok a) :
    t.isPrimitive = true ∧ a = .convert n t := by
  unfold makeConvert at h
  split at h
  · rename_i hprimitive
    cases h
    exact ⟨hprimitive, rfl⟩
  · cases h

/-- Operands of one type stay as they are; otherwise the narrower one is converted. -/
theorem ofOperation_cases (h : ofOperation op l r = .ok a) :
    (l.type = r.type ∧ a = .binary op l r) ∨
      (l.type ≠ r.type ∧ l.type.widensTo r.type = true ∧
        a = .binary op (.convert l r.type) r) ∨
      (l.type ≠ r.type ∧ r.type.widensTo l.type = true ∧
        a = .binary op l (.convert r l.type)) := by
  have hnode := orCounterpart_eq_ok_iff.mp h
  split at hnode
  · exact Or.inl (makeBinary_cases hnode)
  · rename_i hne
    split at hnode
    · rename_i hwidens
      obtain ⟨c, hc, hnode⟩ := bind_eq_ok_iff.mp hnode
      obtain ⟨-, rfl⟩ := makeConvert_cases hc
      exact Or.inr (Or.inl ⟨hne, hwidens, (makeBinary_cases hnode).2⟩)
    · split at hnode
      · rename_i hwidens
        obtain ⟨c, hc, hnode⟩ := bind_eq_ok_iff.mp hnode
        obtain ⟨-, rfl⟩ := makeConvert_cases hc
        exact Or.inr (Or.inr ⟨hne, hwidens, (makeBinary_cases hnode).2⟩)
      · exact absurd (makeBinary_cases hnode).1 hne

theorem ofOperation_of_type_eq (op : BinaryOp) (h : l.type = r.type) :
    ofOperation op l r = .ok (.binary op l r) := by
  rw [ofOperation, if_pos h, makeBinary, if_pos h]
  rfl

/-- A conversion to the type that a node has is left out. -/
theorem ofConversion_cases (h : ofConversion n t = .ok a) :
    (n.type = t ∧ a = n) ∨ (t.isPrimitive = true ∧ a = .convert n t) := by
  unfold ofConversion at h
  split at h
  · rename_i htype
    cases h
    exact Or.inl ⟨htype, rfl⟩
  · exact Or.inr (makeConvert_cases (orCounterpart_eq_ok_iff.mp h))

/-- The node of a call has the result type of the method. -/
theorem ofMethod?_type {name : String} {args : List Node} (h : ofMethod? name r args = some a) :
    ∃ m, StringMethod.ofName? name = some m ∧ a.type = m.resultType := by
  unfold ofMethod? at h
  split at h <;> cases h <;> exact ⟨_, by assumption, rfl⟩

end Node

namespace Value

variable {untyped : Prop} {v w : Value} {c : ColumnType}

/-- A conversion to the type that a value has already does nothing. -/
theorem Fits.convertTo (hv : v.Fits untyped c.edmType) (h : v.convertTo c = .ok w) : w = v := by
  rcases convertTo_cases h with ⟨-, hw⟩ | ⟨hnumeric, haccepts, hw⟩
  · exact hw
  · rcases hv with hnull | htype | ⟨hcomplex, -⟩
    · cases v <;> simp [isNull] at hnull
      simp [convertNumeric?, integer?] at hw
    · rw [accepts_of_type htype (EdmType.ne_complex_of_isNumeric hnumeric)] at haccepts
      cases haccepts
    · simp [hcomplex, EdmType.isNumeric] at hnumeric

end Value

theorem EvalError.ofRead_eq_ok_iff {α : Type} {read : Except RowError α} {a : α} :
    EvalError.ofRead read = .ok a ↔ read = .ok a := by
  cases read <;> simp [EvalError.ofRead]

theorem Row.getAs_eq_ok_iff {row : Row} {name : String} {type : ColumnType} {v : Value} :
    row.getAs name type = .ok v ↔ row.lookUp name = .ok v ∧ type.accepts v = true := by
  rw [Row.getAs, bind_eq_ok_iff]
  constructor
  · rintro ⟨w, hw, h⟩
    split at h
    · rename_i haccepts
      cases h
      exact ⟨hw, haccepts⟩
    · cases h
  · rintro ⟨hv, haccepts⟩
    exact ⟨v, hv, if_pos haccepts⟩

/-- A property is read as a column of its name and type, which accepts the value. -/
theorem Property.accepts_of_typedValueIn {p : Property} {row : Row} {v : Value}
    (h : p.typedValueIn row = .ok v) : p.columnType.accepts v = true :=
  (Row.getAs_eq_ok_iff.mp h).2

namespace Expr

variable {untyped : Prop} {b : Bindings} {a : Node} {v : Value}

/-- A path ends in the member that was read last. -/
theorem toPath_last {e : Expr} {p : MemberPath} {m : Member} {receiver : Option Expr}
    (he : e = .member receiver m) (h : e.toPath = .ok p) : p.last = m := by
  subst he
  cases receiver with
  | none =>
    cases h
    rfl
  | some q =>
    cases q with
    | parameter name type =>
      cases h
      rfl
    | _ =>
      obtain ⟨parent, -, h⟩ := bind_eq_ok_iff.mp h
      cases h
      rfl

/-- What a property reads fits its type, unless the property is untyped. -/
theorem fits_of_read {p : Property} {row : Row}
    (huntyped : (p.columnType == .any) = true → untyped)
    (h : EvalError.ofRead (p.typedValueIn row) = .ok v) : v.Fits untyped p.columnType.edmType := by
  have haccepts := Property.accepts_of_typedValueIn (EvalError.ofRead_eq_ok_iff.mp h)
  rcases Value.type?_of_accepts haccepts with hnull | htype | hany
  · exact Or.inl hnull
  · exact Or.inr (Or.inl htype)
  · refine Or.inr (Or.inr ⟨by rw [hany]; rfl, huntyped ?_⟩)
    simp [hany]

/-- The value of an operation on operands that fit their nodes. -/
theorem fits_of_operation {op : BinaryOp} {l r : Node} {vl : Value} {x : Except EvalError Value}
    (ha : Node.ofOperation op l r = .ok a) (hl : vl.Fits untyped l.type)
    (hr : ∀ vr, x = .ok vr → vr.Fits untyped r.type) (hv : op.applyTo vl x = .ok v) :
    v.Fits untyped a.type := by
  by_cases hop : op.isBoolean = true
  · have htype : a.type = .boolean := by
      rcases Node.ofOperation_cases ha with ⟨-, rfl⟩ | ⟨-, -, rfl⟩ | ⟨-, -, rfl⟩ <;>
        simp [Node.type, hop]
    rw [htype]
    exact Or.inr (Or.inl (BinaryOp.applyTo_type_of_isBoolean hop hv))
  · have hlogic : ¬(op = .and ∨ op = .or) ∧ op.isComparison = false := by
      simpa [op.isBoolean_eq] using hop
    rcases BinaryOp.applyTo_cases hv with ⟨hlogical, -⟩ | ⟨-, vr, hvr, happly⟩
    · exact absurd hlogical hlogic.1
    obtain ⟨s, t, u, hs, ht, hu, hvu⟩ := Value.applyBinary_type hlogic.2 happly
    have hleft : s = l.type ∨ l.type = .complex ∧ untyped := by
      have hnull := Value.isNull_of_type hs
      simpa [Value.Fits, hnull, hs] using hl
    have hright : t = r.type ∨ r.type = .complex ∧ untyped := by
      have hnull := Value.isNull_of_type ht
      simpa [Value.Fits, hnull, ht] using hr vr hvr
    have hnumeric : ∀ {t : EdmType}, t.isNumeric = true → ¬(t = .complex ∧ untyped) := by
      rintro t ht ⟨rfl, -⟩
      simp [EdmType.isNumeric] at ht
    rcases Node.ofOperation_cases ha with ⟨htypes, rfl⟩ | ⟨hne, hwidens, rfl⟩ | ⟨hne, hwidens, rfl⟩
    · simp only [Node.type, hop]
      rcases hleft with rfl | hcomplex
      · rcases hright with rfl | hcomplex
        · rw [← htypes, EdmType.commonType?_of_widensTo l.type.widensTo_refl] at hu
          exact Or.inr (Or.inl (hvu.trans hu.symm))
        · exact Or.inr (Or.inr ⟨htypes.trans hcomplex.1, hcomplex.2⟩)
      · exact Or.inr (Or.inr hcomplex)
    · obtain ⟨hlnum, hrnum, -⟩ := EdmType.isNumeric_of_widensTo hwidens hne
      obtain rfl := hleft.resolve_right (hnumeric hlnum)
      obtain rfl := hright.resolve_right (hnumeric hrnum)
      rw [EdmType.commonType?_of_widensTo hwidens] at hu
      simp only [Node.type, hop]
      exact Or.inr (Or.inl (hvu.trans hu.symm))
    · obtain ⟨hrnum, hlnum, -⟩ := EdmType.isNumeric_of_widensTo hwidens hne.symm
      obtain rfl := hleft.resolve_right (hnumeric hlnum)
      obtain rfl := hright.resolve_right (hnumeric hrnum)
      rw [EdmType.commonType?_comm hwidens hne.symm] at hu
      simp only [Node.type, hop]
      exact Or.inr (Or.inl (hvu.trans hu.symm))

/-- Every value of an expression fits the node that stands for the expression. -/
theorem fits_of_toNode {a : Node} {v : Value} (e : Expr)
    (hdeclared : ∀ d ∈ e.nodes, d.isDeclaredRead = false)
    (huntyped : ∀ d ∈ e.nodes, d.isUntypedRead = true → untyped) (ha : e.toNode = .ok a)
    (hv : e.evaluate b = .ok v) : v.Fits untyped a.type := by
  cases e with
  | parameter name type => cases ha
  | constant w type | captured name w type =>
    cases hv
    obtain ⟨t, rfl, hfits⟩ := Node.ofConstant_cases ha
    exact hfits.imp_right Or.inl
  | call method receiver args =>
    cases method with
    | rowGet type => cases ha
    | named name type =>
      obtain ⟨r, -, ha⟩ := bind_eq_ok_iff.mp ha
      obtain ⟨ns, -, ha⟩ := bind_eq_ok_iff.mp ha
      obtain ⟨vr, -, hv⟩ := bind_eq_ok_iff.mp hv
      obtain ⟨vs, -, hv⟩ := bind_eq_ok_iff.mp hv
      obtain ⟨text, m, -, hm, hvalue⟩ := Value.callMethod_cases hv
      split at ha
      · rename_i n hn
        cases ha
        obtain ⟨m', hm', htype⟩ := Node.ofMethod?_type hn
        obtain rfl : m = m' := Option.some.inj (hm.symm.trans hm')
        rw [htype]
        exact Or.inr (Or.inl (StringMethod.apply_type hvalue))
      · cases ha
  | member receiver m =>
    obtain ⟨p, hp, ha⟩ := bind_eq_ok_iff.mp ha
    cases ha
    obtain ⟨vr, -, hv⟩ := bind_eq_ok_iff.mp hv
    obtain ⟨row, -, hv⟩ := bind_eq_ok_iff.mp hv
    have hlast := toPath_last rfl hp
    cases m with
    | declared name type => simp [isDeclaredRead, nodes] at hdeclared
    | row q =>
      have hq := huntyped _ (self_mem_nodes _)
      have hfits := fits_of_read hq hv
      simp only [Node.type, MemberPath.type, hlast]
      exact hfits
  | binary op left right =>
    simp only [nodes, List.forall_mem_cons, List.forall_mem_append] at hdeclared huntyped
    obtain ⟨l, hl, ha⟩ := bind_eq_ok_iff.mp ha
    obtain ⟨r, hr, ha⟩ := bind_eq_ok_iff.mp ha
    rw [evaluate_binary] at hv
    obtain ⟨vl, hvl, hv⟩ := bind_eq_ok_iff.mp hv
    have hleft := fits_of_toNode left hdeclared.2.1 huntyped.2.1 hl hvl
    exact fits_of_operation ha hleft
      (fun vr hvr => fits_of_toNode right hdeclared.2.2 huntyped.2.2 hr hvr) hv
  | unary op operand =>
    simp only [nodes, List.forall_mem_cons] at hdeclared huntyped
    obtain ⟨n, hn, ha⟩ := bind_eq_ok_iff.mp ha
    cases ha
    obtain ⟨w, hw, hv⟩ := bind_eq_ok_iff.mp hv
    have hoperand := fits_of_toNode operand hdeclared.2 huntyped.2 hn hw
    obtain ⟨t, hwt, hvt, -⟩ := Value.applyUnary_type hv
    have hnull := Value.isNull_of_type hwt
    refine Or.inr ?_
    rw [hvt, ← hwt]
    simpa [Value.Fits, hnull, Node.type] using hoperand
  | convert operand type =>
    simp only [nodes, List.forall_mem_cons] at hdeclared huntyped
    obtain ⟨n, hn, ha⟩ := bind_eq_ok_iff.mp ha
    obtain ⟨w, hw, hv⟩ := bind_eq_ok_iff.mp hv
    have hoperand := fits_of_toNode operand hdeclared.2 huntyped.2 hn hw
    rcases Node.ofConversion_cases ha with ⟨htype, rfl⟩ | ⟨hprimitive, rfl⟩
    · rw [htype] at hoperand
      rw [hoperand.convertTo hv, htype]
      exact hoperand
    · have hnotAny : type ≠ .any := by
        rintro rfl
        simp [ColumnType.edmType, EdmType.isPrimitive] at hprimitive
      rcases Value.convertTo_cases hv with ⟨haccepts, rfl⟩ | ⟨-, -, hconverted⟩
      · have htype := Value.type?_of_accepts haccepts
        simp only [hnotAny, or_false] at htype
        exact htype.imp_right Or.inl
      · exact Or.inr (Or.inl (Value.convertNumeric?_type hconverted))

/-- A value other than null has the static type of the node, unless an untyped read is involved. -/
theorem type?_of_toNode (b : Bindings) (e : Expr) (a : Node) (v : Value)
    (hdeclared : ∀ d ∈ e.nodes, d.isDeclaredRead = false)
    (huntyped : ∀ d ∈ e.nodes, d.isUntypedRead = false) (ha : e.toNode = .ok a)
    (hv : e.evaluate b = .ok v) (hnull : v.isNull = false) : v.type? = some a.type := by
  have hfits : v.Fits False a.type := by
    apply fits_of_toNode e hdeclared ?_ ha hv
    intro d hd hread
    rw [huntyped d hd] at hread
    cases hread
  rcases hfits with hnone | htype | ⟨-, hfalse⟩
  · rw [hnull] at hnone
    cases hnone
  · exact htype
  · exact hfalse.elim

def shippingUnits : Expr :=
  .binary .add
    (.binary .mul (.member (some (.row "r")) (.row ⟨1, "Boxes", .of (.primitive .int16) true⟩))
      (.ofValue (.int64 12)))
    (.call (.named "Length" (.ofEdm .int32))
      (some (.member (some (.row "r")) (.row ⟨2, "Label", .string⟩))) [])

def shippingUnitsNode : Node :=
  .binary .add
    (.binary .mul
      (.convert (.member (.ofMember (.row ⟨1, "Boxes", .of (.primitive .int16) true⟩))) .int64)
      (.constant (.int64 12) .int64))
    (.convert (.call .length [.member (.ofMember (.row ⟨2, "Label", .string⟩))] .int32) .int64)

def fragileParcel : Bindings :=
  Bindings.empty.bind "r" (.row (.ofColumns [("boxes", .int16 (-2)), ("label", .string "fragile")]))

theorem type?_of_toNode_shippingUnits :
    shippingUnits.toNode = .ok shippingUnitsNode ∧
      shippingUnits.evaluate fragileParcel = .ok (.int64 (-17)) ∧
      (Value.int64 (-17)).type? = some shippingUnitsNode.type := by
  have hmethod : StringMethod.ofName? "Length" = some .length := by decide +kernel
  have hnode : shippingUnits.toNode = .ok shippingUnitsNode := by
    simp only [shippingUnits, toNode, Node.ofMethod?, hmethod]
    rfl
  have hvalue : shippingUnits.evaluate fragileParcel = .ok (.int64 (-17)) := by
    simp only [shippingUnits, evaluate, Method.apply, Value.callMethod, hmethod]
    rfl
  exact ⟨hnode, hvalue,
    type?_of_toNode fragileParcel shippingUnits _ _ (by decide) (by decide) hnode hvalue rfl⟩

end Expr

end RowQuery
