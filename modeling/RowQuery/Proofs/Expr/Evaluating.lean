import RowQuery.Proofs.Expr.Nodes

/-!
Evaluation seen from outside. A binary operator takes the value of its left
side and the result of its right side, which a logical operator may disregard.
The value of an expression depends on its parameters only, so an expression
without any has one value for all bindings.
-/

namespace RowQuery

/-- An operator applied to the value of its left side and the result of its right side. A logical
operator that the left side decides does not look at the right one. -/
def BinaryOp.applyTo (op : BinaryOp) (left : Value) (right : Except EvalError Value) :
    Except EvalError Value :=
  if op = .and ∨ op = .or then do
    let decided ← left.expectBoolean op
    if decided = (op = .or) then return .boolean decided
    let r ← right
    return .boolean (← r.expectBoolean op)
  else do
    let r ← right
    Value.applyBinary op left r

theorem BinaryOp.applyTo_ok {op : BinaryOp} (hop : ¬(op = .and ∨ op = .or)) (left right : Value) :
    op.applyTo left (.ok right) = Value.applyBinary op left right := by
  unfold applyTo
  rw [if_neg hop]
  rfl

/-- The left side comes first, and the operator decides what becomes of the right one. -/
theorem Expr.evaluate_binary (b : Bindings) (op : BinaryOp) (left right : Expr) :
    (Expr.binary op left right).evaluate b =
      left.evaluate b >>= fun l => op.applyTo l (right.evaluate b) := by
  simp only [Expr.evaluate, BinaryOp.applyTo]
  cases op <;> rfl

section Bindings

variable (b c : Bindings)

mutual

/-- Bindings that agree on the parameters of an expression give it the same result. -/
theorem Expr.evaluate_congr (e : Expr) (h : ∀ x ∈ e.parameters, b.value? x = c.value? x) :
    e.evaluate b = e.evaluate c := by
  cases e with
  | parameter name type => simp only [Expr.evaluate, h name (by simp)]
  | constant v type => rfl
  | captured name v type => rfl
  | call method receiver args =>
    have hr := Expr.evaluateReceiver_congr (.receiverMissing method.text) receiver
      fun x hx => h x (by simp [hx])
    have ha := Expr.evaluateAll_congr args fun x hx => h x (by simp [hx])
    simp only [Expr.evaluate, hr, ha]
  | member receiver m =>
    have hr := Expr.evaluateReceiver_congr (.ownerMissing m.name) receiver
      fun x hx => h x (by simp [hx])
    simp only [Expr.evaluate, hr]
  | binary op left right =>
    have hl := Expr.evaluate_congr left fun x hx => h x (by simp [hx])
    have hr := Expr.evaluate_congr right fun x hx => h x (by simp [hx])
    simp only [Expr.evaluate, hl, hr]
  | unary op operand =>
    have ho := Expr.evaluate_congr operand fun x hx => h x (by simp [hx])
    simp only [Expr.evaluate, ho]
  | convert operand type =>
    have ho := Expr.evaluate_congr operand fun x hx => h x (by simp [hx])
    simp only [Expr.evaluate, ho]

theorem Expr.evaluateReceiver_congr (missing : TypeFault) (receiver : Option Expr)
    (h : ∀ x ∈ Expr.receiverParameters receiver, b.value? x = c.value? x) :
    Expr.evaluateReceiver b missing receiver = Expr.evaluateReceiver c missing receiver := by
  cases receiver with
  | none => rfl
  | some e => exact Expr.evaluate_congr e h

theorem Expr.evaluateAll_congr (args : List Expr)
    (h : ∀ x ∈ Expr.allParameters args, b.value? x = c.value? x) :
    Expr.evaluateAll b args = Expr.evaluateAll c args := by
  cases args with
  | nil => rfl
  | cons e rest =>
    have he := Expr.evaluate_congr e fun x hx => h x (by simp [hx])
    have hr := Expr.evaluateAll_congr rest fun x hx => h x (by simp [hx])
    simp only [Expr.evaluateAll, he, hr]

end

/-- Without parameters an expression has the same value under all bindings. -/
theorem Expr.evaluate_of_hasParameters_eq_false (e : Expr) (h : e.hasParameters = false) :
    e.evaluate b = e.evaluate c :=
  Expr.evaluate_congr b c e (by simp [(Expr.parameters_eq_nil_iff e).mpr h])

end Bindings

end RowQuery
