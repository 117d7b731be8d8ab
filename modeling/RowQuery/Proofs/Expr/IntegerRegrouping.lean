import RowQuery.Proofs.Expr.Agreement
import RowQuery.Proofs.Expr.IntegerText
import RowQuery.Proofs.Node.Typing

/-!
What becomes of integer arithmetic when it is read back from its text. The
words keep their values, so all that can change is the number of a subtraction
whose right operand is a chain of additions and subtractions. It is kept
exactly if the chain is worth its first term.
-/

namespace RowQuery

section Reads

variable {b : Bindings} {x name : String} {type : ColumnType} {v : Value}

theorem Expr.evaluate_column_eq_ok_iff :
    (Expr.column (.row x) type name).evaluate b = .ok v ↔
      ∃ w row, (Expr.row x).evaluate b = .ok w ∧ w.expectRow = .ok row ∧
        row.getAs name type = .ok v := by
  have hargs : Expr.evaluateAll b [.ofName name] = .ok [.string name] := rfl
  rw [Expr.column, Expr.evaluate, Expr.evaluateReceiver, hargs]
  simp only [bind_eq_ok_iff, Except.ok.injEq, exists_eq_left', Method.apply,
    EvalError.ofRead_eq_ok_iff, exists_and_left]

theorem Expr.evaluate_rowProperty_eq_ok_iff {p : Property} :
    (Expr.member (some (.row x)) (.row p)).evaluate b = .ok v ↔
      ∃ w row, (Expr.row x).evaluate b = .ok w ∧ w.expectRow = .ok row ∧
        row.getAs p.name p.columnType = .ok v := by
  rw [Expr.evaluate, Expr.evaluateReceiver]
  simp only [bind_eq_ok_iff, EvalError.ofRead_eq_ok_iff, exists_and_left, Member.read,
    Property.typedValueIn_eq]

end Reads

/-- The term that a chain of additions and subtractions starts with. -/
def Expr.firstTerm : Expr → Expr
  | .binary op left right => if op.isAdditive then left.firstTerm else .binary op left right
  | e => e

def Expr.wordNumber (row : String) (b : Bindings) (word : String) : Int :=
  match (Expr.ofWord row word).evaluate b with
  | .ok (.int64 n) => n.toInt
  | _ => 0

section Evaluation

variable {row : String} {b : Bindings} {op : BinaryOp} {left right e : Expr} {v v' : Value}
variable {t : Outline} {n : Int64}

theorem Expr.evaluate_arithmetic_eq_ok_iff (hop : op.isArithmetic = true) :
    (Expr.binary op left right).evaluate b = .ok v ↔
      ∃ l r, left.evaluate b = .ok l ∧ right.evaluate b = .ok r ∧
        Value.applyBinary op l r = .ok v := by
  have hlogical : ¬(op = .and ∨ op = .or) := by
    rintro (rfl | rfl) <;> exact absurd hop (by decide)
  simp only [Expr.evaluate_binary, bind_eq_ok_iff, BinaryOp.applyTo, if_neg hlogical,
    exists_and_left]

theorem Expr.isInt64_of_evaluate_ofWord {word : String}
    (h : (Expr.ofWord row word).evaluate b = .ok v) : v.IsInt64 := by
  unfold Expr.ofWord at h
  split at h
  · cases h
    exact Or.inl rfl
  · split at h
    · cases h
      exact Or.inr ⟨_, rfl⟩
    · obtain ⟨_, _, -, -, hread⟩ := Expr.evaluate_column_eq_ok_iff.mp h
      exact (ColumnType.accepts_int64_iff.mp (Row.getAs_eq_ok_iff.mp hread).2).imp_left And.left

/-- Arithmetic on words gives the number of its outline. Null is only given by a single word. -/
theorem Outline.number_of_evaluate (ht : t.isArithmetic = true)
    (h : (t.toExpr row).evaluate b = .ok v) :
    (v = .null ∧ ∃ word, t = .leaf word) ∨
      ∃ n, v = .int64 n ∧ n.toInt = t.number (Expr.wordNumber row b) := by
  induction t generalizing v with
  | leaf word =>
    rcases Expr.isInt64_of_evaluate_ofWord h with rfl | ⟨n, rfl⟩
    · exact Or.inl ⟨rfl, word, rfl⟩
    · rw [toExpr] at h
      exact Or.inr ⟨n, rfl, by rw [number, Expr.wordNumber, h]⟩
  | unary op operand ih => cases ht
  | binary op s u ihs ihu =>
    simp only [isArithmetic, Bool.and_eq_true] at ht
    obtain ⟨l, r, hl, hr, hv⟩ := (Expr.evaluate_arithmetic_eq_ok_iff ht.1.1).mp h
    have hleft := ihs ht.1.2 hl
    have hright := ihu ht.2 hr
    obtain ⟨a, c, n, rfl, rfl, rfl, hn⟩ := Value.applyBinary_int64 ht.1.1
      (Value.isInt64_of_number hleft) (Value.isInt64_of_number hright) hv
    simp only [reduceCtorEq, false_and, Value.int64.injEq, exists_eq_left', false_or]
      at hleft hright
    exact Or.inr ⟨n, rfl, by rw [hn, hleft, hright, number]⟩

namespace Expr.Int64Arithmetic

/-- What an expression gives, its words read back give as well. -/
theorem evaluate_toExpr (he : e.Int64Arithmetic row) (h : e.evaluate b = .ok v) :
    (e.int64Outline.toExpr row).evaluate b = .ok v := by
  induction he generalizing v with
  | read ordinal name nullable hname =>
    obtain ⟨w, r, hw, hr, hread⟩ := Expr.evaluate_rowProperty_eq_ok_iff.mp h
    obtain ⟨hlookUp, haccepts⟩ := Row.getAs_eq_ok_iff.mp hread
    have haccepted : (ColumnType.of (.primitive .int64) true).accepts v = true :=
      ColumnType.accepts_int64_iff.mpr
        ((ColumnType.accepts_int64_iff.mp haccepts).imp_left fun h => ⟨h.1, rfl⟩)
    rw [int64Outline, Outline.toExpr, Member.name, Expr.ofWord_column hname]
    exact Expr.evaluate_column_eq_ok_iff.mpr
      ⟨w, r, hw, hr, Row.getAs_eq_ok_iff.mpr ⟨hlookUp, haccepted⟩⟩
  | constant w nullable hw | captured name w nullable hw =>
    cases h
    exact Expr.evaluate_ofWord_constant b hw
  | operation op hop hl hr ihl ihr =>
    obtain ⟨l, r, hlv, hrv, hv⟩ := (Expr.evaluate_arithmetic_eq_ok_iff hop).mp h
    exact (Expr.evaluate_arithmetic_eq_ok_iff hop).mpr ⟨l, r, ihl hlv, ihr hrv, hv⟩

/-- The value of the arithmetic is the number of its outline, so no overflow has changed it. -/
theorem number_of_evaluate (he : e.Int64Arithmetic row) (h : e.evaluate b = .ok (.int64 n)) :
    n.toInt = e.int64Outline.number (wordNumber row b) := by
  rcases Outline.number_of_evaluate he.isArithmetic_outline (he.evaluate_toExpr h) with
    ⟨hnull, -⟩ | ⟨m, hm, hnumber⟩
  · cases hnull
  · cases hm
    exact hnumber

/-- The operands of an operation that gives a value are integers. -/
theorem exists_operands (hop : op.isArithmetic = true) (hl : left.Int64Arithmetic row)
    (hr : right.Int64Arithmetic row) (h : (Expr.binary op left right).evaluate b = .ok v) :
    ∃ a c n, left.evaluate b = .ok (.int64 a) ∧ right.evaluate b = .ok (.int64 c) ∧
      v = .int64 n := by
  obtain ⟨l, r, hlv, hrv, hv⟩ := (Expr.evaluate_arithmetic_eq_ok_iff hop).mp h
  have hleft := Outline.number_of_evaluate hl.isArithmetic_outline (hl.evaluate_toExpr hlv)
  have hright := Outline.number_of_evaluate hr.isArithmetic_outline (hr.evaluate_toExpr hrv)
  obtain ⟨a, c, n, rfl, rfl, rfl, -⟩ := Value.applyBinary_int64 hop
    (Value.isInt64_of_number hleft) (Value.isInt64_of_number hright) hv
  exact ⟨a, c, n, hlv, hrv, rfl⟩

theorem of_firstTerm (he : e.Int64Arithmetic row) : e.firstTerm.Int64Arithmetic row := by
  induction he with
  | read ordinal name nullable hname => exact .read ordinal name nullable hname
  | constant w nullable hw => exact .constant w nullable hw
  | captured name w nullable hw => exact .captured name w nullable hw
  | operation op hop hl hr ihl ihr =>
    rw [Expr.firstTerm]
    split
    · exact ihl
    · exact .operation op hop hl hr

theorem int64Outline_firstTerm (he : e.Int64Arithmetic row) :
    e.firstTerm.int64Outline = e.int64Outline.firstTerm := by
  induction he with
  | read | constant | captured => rfl
  | operation op hop hl hr ihl ihr =>
    rw [Expr.firstTerm, int64Outline, Outline.firstTerm]
    split
    · exact ihl
    · rfl

/-- A sum with a number has one at its first term as well. -/
theorem exists_evaluate_firstTerm (he : e.Int64Arithmetic row)
    (h : e.evaluate b = .ok (.int64 n)) : ∃ m, e.firstTerm.evaluate b = .ok (.int64 m) := by
  induction he generalizing n with
  | read | constant | captured => exact ⟨n, h⟩
  | operation op hop hl hr ihl ihr =>
    rw [Expr.firstTerm]
    split
    · obtain ⟨a, c, m, ha, -, -⟩ := exists_operands hop hl hr h
      exact ihl ha
    · exact ⟨n, h⟩

theorem evaluate_eq_firstTerm_iff (he : e.Int64Arithmetic row)
    (h : e.evaluate b = .ok (.int64 n)) :
    e.evaluate b = e.firstTerm.evaluate b ↔
      e.int64Outline.number (wordNumber row b) =
        e.int64Outline.firstTerm.number (wordNumber row b) := by
  obtain ⟨m, hm⟩ := he.exists_evaluate_firstTerm h
  rw [← he.int64Outline_firstTerm, ← he.number_of_evaluate h,
    ← he.of_firstTerm.number_of_evaluate hm, h, hm, Except.ok.injEq, Value.int64.injEq,
    Int64.toInt_inj]

/-- The values tell the numbers of what is subtracted. -/
theorem balanced (he : e.Int64Arithmetic row) (h : e.evaluate b = .ok v)
    (hsub : ∀ l r, .binary .sub l r ∈ e.nodes → r.evaluate b = r.firstTerm.evaluate b) :
    e.int64Outline.Balanced (wordNumber row b) := by
  induction he generalizing v with
  | read | constant | captured => trivial
  | @operation left right op hop hl hr ihl ihr =>
    obtain ⟨a, c, n, ha, hc, -⟩ := exists_operands hop hl hr h
    simp only [Expr.nodes, List.mem_cons, List.mem_append] at hsub
    refine ⟨ihl ha fun l r hmem => hsub l r (Or.inr (Or.inl hmem)),
      ihr hc fun l r hmem => hsub l r (Or.inr (Or.inr hmem)), ?_⟩
    rintro rfl
    exact (hr.evaluate_eq_firstTerm_iff hc).mp (hsub left right (Or.inl rfl))

/-- What is read back gives the same value exactly if it has the same number. Null comes from a
single word only, which is read back as itself. -/
theorem regrouped_eq_iff (he : e.Int64Arithmetic row) (h : e.evaluate b = .ok v)
    (h' : (e.int64Outline.leftRotated.toExpr row).evaluate b = .ok v') :
    v' = v ↔ e.int64Outline.leftRotated.number (wordNumber row b) =
      e.int64Outline.number (wordNumber row b) := by
  have ht := he.isArithmetic_outline
  have hwords := he.evaluate_toExpr h
  generalize e.int64Outline = t at ht hwords h'
  cases t with
  | leaf word =>
    have hsame : v' = v := Except.ok.inj (h'.symm.trans hwords)
    exact iff_of_true hsame rfl
  | unary uop operand => cases ht
  | binary op s u =>
    have ht' : (Outline.binary op s u).leftRotated.isArithmetic = true := by
      rw [Outline.isArithmetic_leftRotated, ht]
    rcases Outline.number_of_evaluate ht hwords with ⟨-, word, hleaf⟩ | ⟨n, rfl, hn⟩
    · cases hleaf
    rcases Outline.number_of_evaluate ht' h' with ⟨-, word, hleaf⟩ | ⟨m, rfl, hm⟩
    · obtain ⟨child, l, r, hattach, -⟩ :=
        Outline.exists_attach_eq op s.leftRotated u.leftRotated
      rw [Outline.leftRotated, hattach] at hleaf
      cases hleaf
    · rw [← hn, ← hm, Value.int64.injEq, Int64.toInt_inj]

end Expr.Int64Arithmetic

end Evaluation

/-- Integer arithmetic is written as a text and read back from it with its chains regrouped to the
left. Where both give a value, the values agree if whatever is subtracted has the value of its
first term, as everything but a sum or a difference has on every row. A subtraction of operands of
which this holds keeps its value in no other case. -/
theorem Expr.evaluate_readBack {row : String} {e : Expr} (he : e.Int64Arithmetic row) :
    ∃ n text t, e.toNode = .ok n ∧ n.text? = some text ∧ Outline.read? text = some t ∧
      ∀ b v v', e.evaluate b = .ok v → (t.toExpr row).evaluate b = .ok v' →
        ((∀ l r, .binary .sub l r ∈ e.nodes → r.evaluate b = r.firstTerm.evaluate b) → v' = v) ∧
        ∀ l r, e = .binary .sub l r →
          (∀ l' r', .binary .sub l' r' ∈ l.nodes ++ r.nodes →
            r'.evaluate b = r'.firstTerm.evaluate b) →
          (v' = v ↔ r.evaluate b = r.firstTerm.evaluate b) := by
  obtain ⟨n, text, hnode, htext, hread⟩ := he.exists_text
  refine ⟨n, text, _, hnode, htext, hread, fun b v v' h h' => ⟨fun hsub => ?_, ?_⟩⟩
  · rw [he.regrouped_eq_iff h h']
    exact ((he.balanced h hsub).number_leftRotated he.isArithmetic_outline).1
  · rintro l r rfl hsub
    rw [he.regrouped_eq_iff h h']
    cases he with
    | operation op hop hl hr =>
      obtain ⟨a, c, n, ha, hc, -⟩ := Int64Arithmetic.exists_operands hop hl hr h
      simp only [List.mem_append] at hsub
      rw [hr.evaluate_eq_firstTerm_iff hc]
      exact Outline.number_leftRotated_sub_eq_iff hl.isArithmetic_outline hr.isArithmetic_outline
        (hl.balanced ha fun l' r' hmem => hsub l' r' (Or.inl hmem))
        (hr.balanced hc fun l' r' hmem => hsub l' r' (Or.inr hmem))

def Expr.int64Property (ordinal : Nat) (name : String) : Expr :=
  .member (some (.row "r")) (.row ⟨ordinal, name, .ofEdm .int64⟩)

theorem Expr.int64Arithmetic_int64Property {name : String} (ordinal : Nat)
    (hname : isColumnWord name = true) : (int64Property ordinal name).Int64Arithmetic "r" :=
  .read ordinal name false hname

def Bindings.ofInt64s (a b c : Int64) : Bindings :=
  Bindings.empty.bind "r" (.row (Row.ofList [("A", .int64 a), ("B", .int64 b), ("C", .int64 c)]))

def Expr.takenSum : Expr :=
  .binary .sub (int64Property 1 "A") (.binary .add (int64Property 2 "B") (.ofValue (.int64 0)))

def Outline.differenceAndZero : Outline :=
  .binary .add (.binary .sub (.leaf "A") (.leaf "B")) (.leaf "0L")

theorem Expr.evaluate_readBack_takenSum :
    Expr.takenSum.Int64Arithmetic "r" ∧
      (∃ n, Expr.takenSum.toNode = .ok n ∧ n.text? = some "A sub B add 0L") ∧
      Outline.read? "A sub B add 0L" = some .differenceAndZero ∧
      Expr.takenSum.evaluate (.ofInt64s 5 3 0) = .ok (.int64 2) ∧
      (Outline.differenceAndZero.toExpr "r").evaluate (.ofInt64s 5 3 0) = .ok (.int64 2) ∧
      ∃ n text t, Expr.takenSum.toNode = .ok n ∧ n.text? = some text ∧
        Outline.read? text = some t ∧
        ∀ v', (t.toExpr "r").evaluate (.ofInt64s 5 3 0) = .ok v' → v' = .int64 2 := by
  have hsum : Expr.takenSum.Int64Arithmetic "r" :=
    .operation .sub rfl (int64Arithmetic_int64Property 1 (by decide +kernel))
      (.operation .add rfl (int64Arithmetic_int64Property 2 (by decide +kernel))
        (.constant (.int64 0) false (Or.inr ⟨0, rfl⟩)))
  refine ⟨hsum, ⟨_, rfl, by decide +kernel⟩, by decide +kernel, rfl, rfl, ?_⟩
  obtain ⟨n, text, t, hnode, htext, hread, hvalues⟩ := Expr.evaluate_readBack hsum
  refine ⟨n, text, t, hnode, htext, hread, fun v' h' => (hvalues _ _ v' rfl h').1 ?_⟩
  intro l r hmem
  simp only [Expr.takenSum, int64Property, Expr.row, Expr.ofValue, Expr.nodes,
    Expr.receiverNodes, List.cons_append, List.nil_append, List.mem_cons, List.not_mem_nil,
    Expr.binary.injEq, reduceCtorEq, false_and, or_false, true_and] at hmem
  obtain ⟨-, rfl⟩ := hmem
  rfl

def Expr.takenDifference : Expr :=
  .binary .sub (int64Property 1 "A") (.binary .sub (int64Property 2 "B") (int64Property 3 "C"))

/-- A difference that is taken away is read back as two subtractions, which here give zero in place
of two. -/
theorem Expr.takenDifference_readBack :
    Expr.takenDifference.Int64Arithmetic "r" ∧
      ((Expr.binary .sub (.column (.row "r") (.ofEdm .int64) "A")
        (.binary .sub (.column (.row "r") (.ofEdm .int64) "B")
          (.column (.row "r") (.ofEdm .int64) "C"))).normalizeIn .empty).1 =
        .ok Expr.takenDifference ∧
      (∃ n, Expr.takenDifference.toNode = .ok n ∧ n.text? = some "A sub B sub C") ∧
      Outline.read? "A sub B sub C" =
        some (.binary .sub (.binary .sub (.leaf "A") (.leaf "B")) (.leaf "C")) ∧
      Expr.takenDifference.evaluate (.ofInt64s 1 0 1) = .ok (.int64 2) ∧
      ((Outline.binary .sub (.binary .sub (.leaf "A") (.leaf "B")) (.leaf "C")).toExpr
        "r").evaluate (.ofInt64s 1 0 1) = .ok (.int64 0) := by
  refine ⟨?_, rfl, ⟨_, rfl, by decide +kernel⟩, by decide +kernel, rfl, rfl⟩
  exact .operation .sub rfl (int64Arithmetic_int64Property 1 (by decide +kernel))
    (.operation .sub rfl (int64Arithmetic_int64Property 2 (by decide +kernel))
      (int64Arithmetic_int64Property 3 (by decide +kernel)))

end RowQuery
