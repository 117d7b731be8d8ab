import RowQuery.Node.Text
import RowQuery.Proofs.Expr.Evaluating

/-!
Chains of logical operations. The operands of a chain are looked at from left to
right, until one of them decides, fails or is no Boolean, and the grouping has no
part in this. An expression therefore keeps its result, also an error, when
chains anywhere in it are regrouped. The text of a node shows no such grouping.
-/

namespace RowQuery

/-- Expressions that differ in the grouping of chains of `and` and of chains of `or` only. -/
inductive Expr.Regroups : Expr → Expr → Prop
  | rotate (op : BinaryOp) (l m r : Expr) (h : op = .and ∨ op = .or) :
    Regroups (.binary op (.binary op l m) r) (.binary op l (.binary op m r))
  | refl (e : Expr) : Regroups e e
  | symm {d e : Expr} : Regroups d e → Regroups e d
  | trans {d e f : Expr} : Regroups d e → Regroups e f → Regroups d f
  | callReceiver (method : Method) (args : List Expr) {d e : Expr} : Regroups d e →
    Regroups (.call method (some d) args) (.call method (some e) args)
  | callArgument (method : Method) (receiver : Option Expr) (before after : List Expr)
    {d e : Expr} : Regroups d e →
    Regroups (.call method receiver (before ++ d :: after))
      (.call method receiver (before ++ e :: after))
  | memberReceiver (m : Member) {d e : Expr} : Regroups d e →
    Regroups (.member (some d) m) (.member (some e) m)
  | binary (op : BinaryOp) {l l' r r' : Expr} : Regroups l l' → Regroups r r' →
    Regroups (.binary op l r) (.binary op l' r')
  | unary (op : UnaryOp) {d e : Expr} : Regroups d e → Regroups (.unary op d) (.unary op e)
  | convert (type : ColumnType) {d e : Expr} : Regroups d e →
    Regroups (.convert d type) (.convert e type)

theorem Value.eq_boolean_of_expectBoolean {op : BinaryOp} {v : Value} {t : Bool}
    (h : v.expectBoolean op = .ok t) : v = .boolean t := by
  cases v with
  | boolean u =>
    cases h
    rfl
  | _ => cases h

namespace BinaryOp

variable {op : BinaryOp} (left : Value) (middle right : Except EvalError Value)

/-- Once a side decides, nothing that follows in a chain is looked at. -/
theorem applyTo_of_decides {t : Bool} (hop : op = .and ∨ op = .or) (h : t = true ↔ op = .or) :
    op.applyTo (.boolean t) right = .ok (.boolean t) := by
  unfold applyTo
  rw [if_pos hop]
  exact if_pos (propext h)

/-- As long as no side decides, the chain goes on with what follows. -/
theorem applyTo_of_open {t : Bool} (hop : op = .and ∨ op = .or) (h : ¬(t = true ↔ op = .or)) :
    op.applyTo (.boolean t) right =
      right >>= fun r => Value.boolean <$> r.expectBoolean op := by
  unfold applyTo
  rw [if_pos hop]
  exact if_neg fun heq => h (iff_of_eq heq)

/-- Logic fails on a left side that is no truth value, whatever stands on the right. -/
theorem applyTo_of_notBoolean {error : EvalError} (hop : op = .and ∨ op = .or)
    (h : left.expectBoolean op = .error error) : op.applyTo left right = .error error := by
  unfold applyTo
  rw [if_pos hop, h]
  rfl

/-- What a logical operation gives is a Boolean. -/
theorem applyTo_expectBoolean (hop : op = .and ∨ op = .or) :
    (op.applyTo left right >>= fun v => Value.boolean <$> v.expectBoolean op) =
      op.applyTo left right := by
  cases hleft : left.expectBoolean op with
  | error error =>
    rw [applyTo_of_notBoolean left right hop hleft]
    rfl
  | ok t =>
    obtain rfl := Value.eq_boolean_of_expectBoolean hleft
    by_cases hdecides : t = true ↔ op = .or
    · rw [applyTo_of_decides right hop hdecides]
      rfl
    · rw [applyTo_of_open right hop hdecides]
      cases right with
      | error error => rfl
      | ok v =>
        show (Value.boolean <$> v.expectBoolean op >>= fun w =>
          Value.boolean <$> w.expectBoolean op) = Value.boolean <$> v.expectBoolean op
        cases v.expectBoolean op <;> rfl

/-- Two operations in a chain are one walk over three operands. -/
theorem applyTo_assoc (hop : op = .and ∨ op = .or) :
    (op.applyTo left middle >>= fun v => op.applyTo v right) =
      op.applyTo left (middle >>= fun v => op.applyTo v right) := by
  cases hleft : left.expectBoolean op with
  | error error =>
    rw [applyTo_of_notBoolean left _ hop hleft, applyTo_of_notBoolean left _ hop hleft]
    rfl
  | ok t =>
    obtain rfl := Value.eq_boolean_of_expectBoolean hleft
    by_cases hdecides : t = true ↔ op = .or
    · rw [applyTo_of_decides _ hop hdecides, applyTo_of_decides _ hop hdecides]
      exact applyTo_of_decides right hop hdecides
    · rw [applyTo_of_open _ hop hdecides, applyTo_of_open _ hop hdecides]
      cases middle with
      | error error => rfl
      | ok v =>
        have hbehind := applyTo_expectBoolean v right hop
        refine Eq.trans ?_ hbehind.symm
        cases hmiddle : v.expectBoolean op with
        | error error =>
          rw [applyTo_of_notBoolean v right hop hmiddle]
          simp only [bind, Except.bind, hmiddle]
          rfl
        | ok u =>
          obtain rfl := Value.eq_boolean_of_expectBoolean hmiddle
          rfl

end BinaryOp

namespace Expr

variable {b : Bindings} {d e : Expr}

theorem evaluateAll_append_cons (b : Bindings) (before : List Expr) (e : Expr)
    (after : List Expr) :
    evaluateAll b (before ++ e :: after) = (do
      let vs ← evaluateAll b before
      let v ← e.evaluate b
      let ws ← evaluateAll b after
      return vs ++ v :: ws) := by
  induction before with
  | nil => rfl
  | cons first rest ih =>
    simp only [List.cons_append, evaluateAll, ih, bind_assoc, pure_bind]

/-- Regrouping keeps the value, and the error where there is none. -/
theorem Regroups.evaluate_eq (h : d.Regroups e) : d.evaluate b = e.evaluate b := by
  induction h with
  | rotate op l m r hop =>
    simp only [evaluate_binary, bind_assoc]
    exact bind_congr fun v => BinaryOp.applyTo_assoc v (m.evaluate b) (r.evaluate b) hop
  | refl e => rfl
  | symm _ ih => exact ih.symm
  | trans _ _ ih ih' => exact ih.trans ih'
  | callReceiver method args _ ih => simp only [evaluate, evaluateReceiver, ih]
  | callArgument method receiver before after _ ih =>
    simp only [evaluate, evaluateAll_append_cons, ih]
  | memberReceiver m _ ih => simp only [evaluate, evaluateReceiver, ih]
  | binary op _ _ ihl ihr => simp only [evaluate_binary, ihl, ihr]
  | unary op _ ih => simp only [evaluate, ih]
  | convert type _ ih => simp only [evaluate, ih]

end Expr

/-- A chain of one logical operator has one text, however it is grouped. -/
theorem Node.text?_rotate {op : BinaryOp} (hop : op = .and ∨ op = .or) (l m r : Node) :
    (Node.binary op (.binary op l m) r).text? = (Node.binary op l (.binary op m r)).text? := by
  have hself : op.parenthesizes op = false := by rcases hop with rfl | rfl <;> rfl
  cases hl : l.text? <;> cases hm : m.text? <;> cases hr : r.text? <;>
    simp [text?, BinaryOp.wrap, hself, hl, hm, hr, String.append_assoc]

/-- Regrouping chains of `and` and of `or` in an expression leaves all its results as they are,
errors included, and is what the text of a chain does not show. -/
theorem Expr.evaluate_of_regroups (d e : Expr) (h : d.Regroups e) :
    (∀ b : Bindings, d.evaluate b = e.evaluate b) ∧
      ∀ op : BinaryOp, op = .and ∨ op = .or → ∀ l m r : Node,
        (Node.binary op (.binary op l m) r).text? = (Node.binary op l (.binary op m r)).text? :=
  ⟨fun _ => h.evaluate_eq, fun _ hop l m r => Node.text?_rotate hop l m r⟩

def Expr.gateCondition (name : String) : Expr :=
  .column (.row "gate") (.of (.primitive .boolean) true) name

def Expr.closedGate : Expr :=
  .unary .not (.binary .and (.binary .and (gateCondition "Open") (gateCondition "Staffed"))
    (gateCondition "Dry"))

def Expr.closedGateRegrouped : Expr :=
  .unary .not (.binary .and (gateCondition "Open")
    (.binary .and (gateCondition "Staffed") (gateCondition "Dry")))

def unknownGate : Bindings :=
  Bindings.empty.bind "gate" (.row (.ofColumns [("OPEN", .boolean true), ("staffed", .null)]))

/-- The unknown condition is refused in both groupings, before the missing one is read. -/
theorem Expr.evaluate_of_regroups_closedGate :
    closedGate.Regroups closedGateRegrouped ∧
      closedGate.evaluate unknownGate = .error (.type (.notBoolean .and "null")) ∧
      closedGateRegrouped.evaluate unknownGate = .error (.type (.notBoolean .and "null")) := by
  have hregroups : closedGate.Regroups closedGateRegrouped :=
    .unary .not (.rotate .and _ _ _ (Or.inl rfl))
  have hvalue : closedGate.evaluate unknownGate = .error (.type (.notBoolean .and "null")) := rfl
  have hsame := (evaluate_of_regroups closedGate closedGateRegrouped hregroups).1 unknownGate
  exact ⟨hregroups, hvalue, hsame ▸ hvalue⟩

end RowQuery
