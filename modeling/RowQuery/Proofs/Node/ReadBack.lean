import RowQuery.Proofs.Node.Typing
import RowQuery.Proofs.Value.Widening

/-!
Nodes read back as expressions over one parameter. What a node does not show
has no influence on values: how a constant was written, the spelling of a
method, conversions of a value to its own type, and whether a narrower operand
was converted beforehand or is widened by its operation. Every value of an
expression is therefore a value of what its node is read back as.
-/

namespace RowQuery

def StringMethod.name : StringMethod → String
  | .startsWith => "startswith"
  | .endsWith => "endswith"
  | .contains => "contains"
  | .toLower => "tolower"
  | .toUpper => "toupper"
  | .trim => "trim"
  | .length => "length"
  | .indexOf => "indexof"

theorem StringMethod.ofName?_name (m : StringMethod) : ofName? m.name = some m := by
  cases m <;> decide +kernel

/-- The method that a function stands for, with the receiver and the arguments it finds among the
operands. -/
def QueryFunction.methodCall? {α : Type} :
    QueryFunction → List α → Option (StringMethod × α × List α)
  | .startsWith, [receiver, arg] => some (.startsWith, receiver, [arg])
  | .endsWith, [receiver, arg] => some (.endsWith, receiver, [arg])
  | .substringOf, [arg, receiver] => some (.contains, receiver, [arg])
  | .indexOf, [receiver, arg] => some (.indexOf, receiver, [arg])
  | .toLower, [receiver] => some (.toLower, receiver, [])
  | .toUpper, [receiver] => some (.toUpper, receiver, [])
  | .trim, [receiver] => some (.trim, receiver, [])
  | .length, [receiver] => some (.length, receiver, [])
  | _, _ => none

def MemberPath.toExpr (x : String) (p : MemberPath) : Expr :=
  p.members.foldl (fun e m => .member (some e) m) (.row x)

mutual

/-- The expression over a row parameter that a node stands for, if there is one. -/
def Node.toExpr? (x : String) : Node → Option Expr
  | .binary op left right => do
    let l ← left.toExpr? x
    let r ← right.toExpr? x
    return .binary op l r
  | .unary op operand => do
    let e ← operand.toExpr? x
    return .unary op e
  | .call function args type => do
    let es ← Node.toExprs? x args
    let (m, receiver, rest) ← function.methodCall? es
    return .call (.named m.name (.ofEdm type)) (some receiver) rest
  | .constant v type => some (.constant v (.of (.primitive type) true))
  | .member path => some (path.toExpr x)
  | .convert operand type => do
    let e ← operand.toExpr? x
    return .convert e (.of (.primitive type) true)
  | .sortKey _ | .selectColumn _ | .query _ => none

def Node.toExprs? (x : String) : List Node → Option (List Expr)
  | [] => some []
  | n :: rest => do
    let e ← n.toExpr? x
    let es ← Node.toExprs? x rest
    return e :: es

end

theorem MemberPath.toExpr_extend (x : String) (p : MemberPath) (m : Member) :
    (p.extend m).toExpr x = .member (some (p.toExpr x)) m := by
  have hmembers : (p.extend m).members = p.members ++ [m] := rfl
  unfold toExpr
  rw [hmembers, List.foldl_append]
  rfl

theorem Node.toExprs?_nil {x : String} {es : List Expr} (h : Node.toExprs? x [] = some es) :
    es = [] := by
  rw [Node.toExprs?] at h
  exact (Option.some.inj h).symm

theorem Node.toExprs?_singleton {x : String} {n : Node} {es : List Expr}
    (h : Node.toExprs? x [n] = some es) : ∃ e, n.toExpr? x = some e ∧ es = [e] := by
  simp only [Node.toExprs?] at h
  obtain ⟨e, he, h⟩ := Option.bind_eq_some_iff.mp h
  exact ⟨e, he, (Option.some.inj h).symm⟩

/-- The call of a function is read back as the call of a method that it stands for. -/
theorem Node.toExpr?_ofMethod? {x name : String} {r a : Node} {args : List Node} {receiver : Expr}
    {rest : List Expr} (h : Node.ofMethod? name r args = some a)
    (hr : r.toExpr? x = some receiver) (hargs : Node.toExprs? x args = some rest) :
    ∃ m, StringMethod.ofName? name = some m ∧
      a.toExpr? x =
        some (.call (.named m.name (.ofEdm m.resultType)) (some receiver) rest) := by
  unfold Node.ofMethod? at h
  split at h
  iterate 4
    · rename_i arg hm
      cases h
      obtain ⟨e, he, rfl⟩ := Node.toExprs?_singleton hargs
      refine ⟨_, hm, ?_⟩
      simp only [Node.toExpr?, Node.toExprs?, hr, he]
      rfl
  iterate 4
    · rename_i hm
      cases h
      obtain rfl := Node.toExprs?_nil hargs
      refine ⟨_, hm, ?_⟩
      simp only [Node.toExpr?, Node.toExprs?, hr]
      rfl
  · cases h

section Evaluation

variable {b : Bindings} {x : String}

/-- A path is read back as the reads that it was made from. -/
theorem Expr.evaluate_toPath {e : Expr} {p : MemberPath} {v : Value}
    (hx : ∀ y ∈ e.parameters, y = x) (hp : e.toPath = .ok p) (hv : e.evaluate b = .ok v) :
    (p.toExpr x).evaluate b = .ok v := by
  cases e with
  | member receiver m =>
    cases receiver with
    | none => cases hv
    | some q =>
      obtain ⟨vr, hvr, hread⟩ := bind_eq_ok_iff.mp hv
      have hfrom : ∃ q' : Expr, p.toExpr x = .member (some q') m ∧ q'.evaluate b = .ok vr := by
        cases q with
        | parameter y type =>
          cases hp
          obtain rfl := hx y (by simp)
          exact ⟨_, rfl, hvr⟩
        | member receiver' m' =>
          obtain ⟨parent, hparent, hp⟩ := bind_eq_ok_iff.mp hp
          cases hp
          have hq := Expr.evaluate_toPath (fun y hy => hx y (by simpa using hy)) hparent hvr
          exact ⟨_, parent.toExpr_extend x m, hq⟩
        | _ => cases hp
      obtain ⟨q', hq', hvq⟩ := hfrom
      rw [hq']
      exact bind_eq_ok_iff.mpr ⟨vr, hvq, hread⟩
  | _ => cases hp

/-- A call is read back as one with the same value, whatever the method was called by. -/
theorem Node.evaluate_ofMethod? {name : String} {r a : Node} {args : List Node} {receiver : Expr}
    {rest : List Expr} (ha : Node.ofMethod? name r args = some a)
    (hr : r.toExpr? x = some receiver) (hargs : Node.toExprs? x args = some rest) :
    ∃ e, a.toExpr? x = some e ∧
      ∀ vr vs v, receiver.evaluate b = .ok vr → Expr.evaluateAll b rest = .ok vs →
        vr.callMethod name vs = .ok v → e.evaluate b = .ok v := by
  obtain ⟨m, hm, hread⟩ := Node.toExpr?_ofMethod? ha hr hargs
  refine ⟨_, hread, ?_⟩
  intro vr vs v hvr hvs hv
  obtain ⟨text, m', rfl, hm', happly⟩ := Value.callMethod_cases hv
  obtain rfl : m = m' := Option.some.inj (hm.symm.trans hm')
  refine bind_eq_ok_iff.mpr ⟨_, hvr, bind_eq_ok_iff.mpr ⟨vs, hvs, ?_⟩⟩
  simp only [Method.apply, Value.callMethod, m.ofName?_name]
  exact StringMethod.apply_rename m.name happly

/-- The right side of an operation may be replaced by one with the same value, if it has one. -/
theorem BinaryOp.applyTo_mono {op : BinaryOp} {l v : Value} {y z : Except EvalError Value}
    (hyz : ∀ r, y = .ok r → z = .ok r) (h : op.applyTo l y = .ok v) :
    op.applyTo l z = .ok v := by
  cases y with
  | ok r => rw [hyz r rfl]; exact h
  | error e =>
    unfold applyTo at h ⊢
    split at h
    · rename_i hop
      obtain ⟨decided, hl, h⟩ := bind_eq_ok_iff.mp h
      rw [if_pos hop]
      refine bind_eq_ok_iff.mpr ⟨decided, hl, ?_⟩
      split at h
      · rename_i hdecided
        rw [if_pos hdecided]
        exact h
      · cases h
    · cases h

theorem Value.Fits.null_or_type {untyped : Prop} {v : Value} {t : EdmType}
    (h : v.Fits untyped t) (ht : t.isNumeric = true) : v.isNull = true ∨ v.type? = some t := by
  rcases h with hnull | htype | ⟨rfl, -⟩
  · exact Or.inl hnull
  · exact Or.inr htype
  · simp [EdmType.isNumeric] at ht

theorem Value.Fits.type?_ne_boolean {untyped : Prop} {v : Value} {t : EdmType}
    (h : v.Fits untyped t) (ht : t.isNumeric = true) : v.type? ≠ some .boolean := by
  intro hv
  have hnull := Value.isNull_of_type hv
  rcases h.null_or_type ht with hnone | htype
  · simp [hnull] at hnone
  · rw [hv, Option.some.injEq] at htype
    simp [← htype, EdmType.isNumeric] at ht

/-- An operation is read back as one with the same value: where its node converts an operand, the
operation would have widened it. Logic has no value on what widens. -/
theorem Node.evaluate_ofOperation {op : BinaryOp} {l r a : Node} {left right : Expr}
    (ha : Node.ofOperation op l r = .ok a) (hl : l.toExpr? x = some left)
    (hr : r.toExpr? x = some right) :
    ∃ e, a.toExpr? x = some e ∧
      ∀ vl y v, left.evaluate b = .ok vl → (∀ vr, y = .ok vr → right.evaluate b = .ok vr) →
        vl.Fits True l.type → (∀ vr, y = .ok vr → vr.Fits True r.type) →
        op.applyTo vl y = .ok v → e.evaluate b = .ok v := by
  rcases Node.ofOperation_cases ha with ⟨-, rfl⟩ | ⟨hne, hwidens, rfl⟩ | ⟨hne, hwidens, rfl⟩
  · refine ⟨.binary op left right, by simp only [Node.toExpr?, hl, hr]; rfl, ?_⟩
    intro vl y v hvl hy hfl hfr hv
    rw [Expr.evaluate_binary]
    exact bind_eq_ok_iff.mpr ⟨vl, hvl, BinaryOp.applyTo_mono hy hv⟩
  · refine ⟨.binary op (.convert left (.of (.primitive r.type) true)) right,
      by simp only [Node.toExpr?, hl, hr]; rfl, ?_⟩
    intro vl y v hvl hy hfl hfr hv
    obtain ⟨hlnum, hrnum, -⟩ := EdmType.isNumeric_of_widensTo hwidens hne
    rcases BinaryOp.applyTo_cases hv with ⟨-, hboolean, -⟩ | ⟨hlogic, vr, hvr, happly⟩
    · exact absurd hboolean (hfl.type?_ne_boolean hlnum)
    · obtain ⟨w, hw, hresult⟩ := Value.applyBinary_converted_left op hwidens hne
        (hfl.null_or_type hlnum) ((hfr vr hvr).null_or_type hrnum) happly
      rw [Expr.evaluate_binary]
      refine bind_eq_ok_iff.mpr ⟨w, bind_eq_ok_iff.mpr ⟨vl, hvl, hw⟩, ?_⟩
      rw [hy vr hvr, BinaryOp.applyTo_ok hlogic]
      exact hresult
  · refine ⟨.binary op left (.convert right (.of (.primitive l.type) true)),
      by simp only [Node.toExpr?, hl, hr]; rfl, ?_⟩
    intro vl y v hvl hy hfl hfr hv
    obtain ⟨hrnum, hlnum, -⟩ := EdmType.isNumeric_of_widensTo hwidens hne.symm
    rcases BinaryOp.applyTo_cases hv with ⟨-, hboolean, -⟩ | ⟨hlogic, vr, hvr, happly⟩
    · exact absurd hboolean (hfl.type?_ne_boolean hlnum)
    · obtain ⟨w, hw, hresult⟩ := Value.applyBinary_converted_right op hwidens hne.symm
        (hfl.null_or_type hlnum) ((hfr vr hvr).null_or_type hrnum) happly
      have hright : (Expr.convert right (.of (.primitive l.type) true)).evaluate b = .ok w :=
        bind_eq_ok_iff.mpr ⟨vr, hy vr hvr, hw⟩
      rw [Expr.evaluate_binary]
      refine bind_eq_ok_iff.mpr ⟨vl, hvl, ?_⟩
      rw [hright, BinaryOp.applyTo_ok hlogic]
      exact hresult

variable (b x)

mutual

/-- The node of an expression is read back as an expression with every value that it has. A
conversion that the node has dropped did nothing to a value that fits. -/
theorem Expr.toExpr?_toNode {a : Node} (e : Expr)
    (hdeclared : ∀ d ∈ e.nodes, d.isDeclaredRead = false) (hx : ∀ y ∈ e.parameters, y = x)
    (ha : e.toNode = .ok a) :
    ∃ e', a.toExpr? x = some e' ∧ ∀ v, e.evaluate b = .ok v → e'.evaluate b = .ok v := by
  cases e with
  | parameter name type => cases ha
  | constant w type | captured name w type =>
    obtain ⟨t, rfl, -⟩ := Node.ofConstant_cases ha
    exact ⟨.constant w (.of (.primitive t) true), by rw [Node.toExpr?], fun v hv => hv⟩
  | call method receiver args =>
    cases method with
    | rowGet type => cases ha
    | named name type =>
      simp only [Expr.nodes, List.forall_mem_cons, List.forall_mem_append] at hdeclared
      simp only [Expr.parameters_call, List.forall_mem_append] at hx
      obtain ⟨r, hr, ha⟩ := bind_eq_ok_iff.mp ha
      obtain ⟨ns, hns, ha⟩ := bind_eq_ok_iff.mp ha
      cases receiver with
      | none => cases hr
      | some q =>
        obtain ⟨q', hq', hqv⟩ := Expr.toExpr?_toNode q hdeclared.2.1 hx.1 hr
        obtain ⟨rest, hrest, hrestv⟩ := Expr.toExprs?_toNodes args hdeclared.2.2 hx.2 hns
        split at ha
        · rename_i n hn
          cases ha
          obtain ⟨e', he', hvalue⟩ := Node.evaluate_ofMethod? (b := b) hn hq' hrest
          refine ⟨e', he', fun v hv => ?_⟩
          obtain ⟨vr, hvr, hv⟩ := bind_eq_ok_iff.mp hv
          obtain ⟨vs, hvs, hv⟩ := bind_eq_ok_iff.mp hv
          exact hvalue vr vs v (hqv vr hvr) (hrestv vs hvs) hv
        · cases ha
  | member receiver m =>
    obtain ⟨p, hp, ha⟩ := bind_eq_ok_iff.mp ha
    cases ha
    exact ⟨p.toExpr x, by rw [Node.toExpr?], fun v hv => Expr.evaluate_toPath hx hp hv⟩
  | binary op left right =>
    simp only [Expr.nodes, List.forall_mem_cons, List.forall_mem_append] at hdeclared
    simp only [Expr.parameters_binary, List.forall_mem_append] at hx
    obtain ⟨l, hl, ha⟩ := bind_eq_ok_iff.mp ha
    obtain ⟨r, hr, ha⟩ := bind_eq_ok_iff.mp ha
    obtain ⟨left', hleft, hleftv⟩ := Expr.toExpr?_toNode left hdeclared.2.1 hx.1 hl
    obtain ⟨right', hright, hrightv⟩ := Expr.toExpr?_toNode right hdeclared.2.2 hx.2 hr
    obtain ⟨e', he', hvalue⟩ := Node.evaluate_ofOperation (b := b) ha hleft hright
    refine ⟨e', he', fun v hv => ?_⟩
    rw [Expr.evaluate_binary] at hv
    obtain ⟨vl, hvl, hv⟩ := bind_eq_ok_iff.mp hv
    have hfl : vl.Fits True l.type :=
      Expr.fits_of_toNode left hdeclared.2.1 (fun _ _ _ => trivial) hl hvl
    have hfr : ∀ vr, right.evaluate b = .ok vr → vr.Fits True r.type := fun vr hvr =>
      Expr.fits_of_toNode right hdeclared.2.2 (fun _ _ _ => trivial) hr hvr
    exact hvalue vl _ v (hleftv vl hvl) hrightv hfl hfr hv
  | unary op operand =>
    simp only [Expr.nodes, List.forall_mem_cons] at hdeclared
    simp only [Expr.parameters_unary] at hx
    obtain ⟨n, hn, ha⟩ := bind_eq_ok_iff.mp ha
    cases ha
    obtain ⟨operand', hoperand, hvalue⟩ := Expr.toExpr?_toNode operand hdeclared.2 hx hn
    refine ⟨.unary op operand', by simp only [Node.toExpr?, hoperand]; rfl, fun v hv => ?_⟩
    obtain ⟨w, hw, hv⟩ := bind_eq_ok_iff.mp hv
    exact bind_eq_ok_iff.mpr ⟨w, hvalue w hw, hv⟩
  | convert operand type =>
    simp only [Expr.nodes, List.forall_mem_cons] at hdeclared
    simp only [Expr.parameters_convert] at hx
    obtain ⟨n, hn, ha⟩ := bind_eq_ok_iff.mp ha
    obtain ⟨operand', hoperand, hvalue⟩ := Expr.toExpr?_toNode operand hdeclared.2 hx hn
    rcases Node.ofConversion_cases ha with ⟨htype, rfl⟩ | ⟨hprimitive, rfl⟩
    · refine ⟨operand', hoperand, fun v hv => ?_⟩
      obtain ⟨w, hw, hv⟩ := bind_eq_ok_iff.mp hv
      have hfits : w.Fits True type.edmType :=
        htype ▸ Expr.fits_of_toNode operand hdeclared.2 (fun _ _ _ => trivial) hn hw
      rw [hfits.convertTo hv]
      exact hvalue w hw
    · refine ⟨.convert operand' (.of (.primitive type.edmType) true),
        by simp only [Node.toExpr?, hoperand]; rfl, fun v hv => ?_⟩
      obtain ⟨w, hw, hv⟩ := bind_eq_ok_iff.mp hv
      exact bind_eq_ok_iff.mpr ⟨w, hvalue w hw, Value.convertTo_nullable hprimitive hv⟩

theorem Expr.toExprs?_toNodes {ns : List Node} (args : List Expr)
    (hdeclared : ∀ d ∈ Expr.allNodes args, d.isDeclaredRead = false)
    (hx : ∀ y ∈ Expr.allParameters args, y = x) (ha : Expr.toNodes args = .ok ns) :
    ∃ es, Node.toExprs? x ns = some es ∧
      ∀ vs, Expr.evaluateAll b args = .ok vs → Expr.evaluateAll b es = .ok vs := by
  cases args with
  | nil =>
    cases ha
    exact ⟨[], by rw [Node.toExprs?], fun vs hvs => hvs⟩
  | cons e rest =>
    simp only [Expr.allNodes, List.forall_mem_append] at hdeclared
    simp only [Expr.allParameters_cons, List.forall_mem_append] at hx
    obtain ⟨n, hn, ha⟩ := bind_eq_ok_iff.mp ha
    obtain ⟨nrest, hnrest, ha⟩ := bind_eq_ok_iff.mp ha
    cases ha
    obtain ⟨e', he', hvalue⟩ := Expr.toExpr?_toNode e hdeclared.1 hx.1 hn
    obtain ⟨es, hes, hvalues⟩ := Expr.toExprs?_toNodes rest hdeclared.2 hx.2 hnrest
    refine ⟨e' :: es, by simp only [Node.toExprs?, he', hes]; rfl, fun vs hvs => ?_⟩
    obtain ⟨v, hv, hvs⟩ := bind_eq_ok_iff.mp hvs
    obtain ⟨rest', hrest', hvs⟩ := bind_eq_ok_iff.mp hvs
    exact bind_eq_ok_iff.mpr ⟨v, hvalue v hv, bind_eq_ok_iff.mpr ⟨rest', hvalues _ hrest', hvs⟩⟩

end

end Evaluation

/-- Expressions over one parameter that have the same node have the same value, if they have any. -/
theorem Expr.evaluate_eq_of_toNode_eq (b : Bindings) (x : String) (e₁ e₂ : Expr) (a : Node)
    (v₁ v₂ : Value) (hdeclared₁ : ∀ d ∈ e₁.nodes, d.isDeclaredRead = false)
    (hdeclared₂ : ∀ d ∈ e₂.nodes, d.isDeclaredRead = false) (hx₁ : ∀ y ∈ e₁.parameters, y = x)
    (hx₂ : ∀ y ∈ e₂.parameters, y = x) (ha₁ : e₁.toNode = .ok a) (ha₂ : e₂.toNode = .ok a)
    (hv₁ : e₁.evaluate b = .ok v₁) (hv₂ : e₂.evaluate b = .ok v₂) : v₁ = v₂ := by
  obtain ⟨e, he, hvalue₁⟩ := Expr.toExpr?_toNode b x e₁ hdeclared₁ hx₁ ha₁
  obtain ⟨e', he', hvalue₂⟩ := Expr.toExpr?_toNode b x e₂ hdeclared₂ hx₂ ha₂
  obtain rfl : e = e' := Option.some.inj (he.symm.trans he')
  have hboth : Except.ok v₁ = (Except.ok v₂ : Except EvalError Value) := by
    rw [← hvalue₁ v₁ hv₁, hvalue₂ v₂ hv₂]
  exact Except.ok.inj hboth

def Expr.ofProperty (ordinal : Nat) (name : String) (type : ColumnType) : Expr :=
  .member (some (.row "r")) (.row ⟨ordinal, name, type⟩)

def Expr.senior : Expr :=
  .binary .and
    (.binary .ge (.ofProperty 1 "age" (.of (.primitive .int32) true))
      (.captured "limit" (.single (.ofNat .single 65)) (.ofEdm .single)))
    (.call (.named "StartsWith" .boolean) (some (.ofProperty 2 "Name" .string)) [.ofName "A"])

def Expr.seniorConverted : Expr :=
  .binary .and
    (.binary .ge (.convert (.ofProperty 1 "age" (.of (.primitive .int32) true)) (.ofEdm .single))
      (.ofValue (.single (.ofNat .single 65))))
    (.call (.named "startswith" .boolean)
      (some (.convert (.ofProperty 2 "Name" .string) .string))
      [.captured "initial" (.string "A") .string])

def Node.senior : Node :=
  .binary .and
    (.binary .ge
      (.convert (.member (.ofMember (.row ⟨1, "age", .of (.primitive .int32) true⟩))) .single)
      (.constant (.single (.ofNat .single 65)) .single))
    (.call .startsWith
      [.member (.ofMember (.row ⟨2, "Name", .string⟩)), .constant (.string "A") .string] .boolean)

def Bindings.ofAnna : Bindings :=
  Bindings.empty.bind "r" (.row (.ofColumns [("name", .string "Anna"), ("AGE", .int32 70)]))

theorem Expr.evaluate_eq_of_toNode_eq_senior :
    Expr.senior.toNode = .ok .senior ∧ Expr.seniorConverted.toNode = .ok .senior ∧
      Expr.senior.evaluate .ofAnna = .ok (.boolean true) ∧
      Expr.seniorConverted.evaluate .ofAnna = .ok (.boolean true) ∧
      Value.boolean true = Value.boolean true := by
  have hmethod : StringMethod.ofName? "StartsWith" = some .startsWith := by decide +kernel
  have hmethod' : StringMethod.ofName? "startswith" = some .startsWith := by decide +kernel
  have hnode : Expr.senior.toNode = .ok .senior := by
    simp only [Expr.senior, Expr.toNode, Node.ofMethod?, hmethod]
    rfl
  have hconverted : Expr.seniorConverted.toNode = .ok .senior := by
    simp only [Expr.seniorConverted, Expr.toNode, Node.ofMethod?, hmethod']
    rfl
  have hvalue : Expr.senior.evaluate .ofAnna = .ok (.boolean true) := by
    simp only [Expr.senior, Expr.evaluate, Method.apply, Value.callMethod, hmethod]
    rfl
  have hvalue' : Expr.seniorConverted.evaluate .ofAnna = .ok (.boolean true) := by
    simp only [Expr.seniorConverted, Expr.evaluate, Method.apply, Value.callMethod, hmethod']
    rfl
  exact ⟨hnode, hconverted, hvalue, hvalue', Expr.evaluate_eq_of_toNode_eq .ofAnna "r" _ _ _ _ _
    (by decide) (by decide) (by decide) (by decide) hnode hconverted hvalue hvalue'⟩

end RowQuery
