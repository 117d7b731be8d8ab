import RowQuery.Proofs.Expr.Evaluating
import RowQuery.Proofs.Row.Answers

/-!
What expressions see of rows. An expression that only reads columns and members
from its parameters sees of a row what the row answers. Neither the order of the
columns nor the spelling of their names has a part in its value or its error.
-/

namespace RowQuery

mutual

/-- Whether parameters occur only as what columns and members are read from. -/
def Expr.onlyReadsParameters : Expr → Bool
  | .parameter _ _ => false
  | .constant _ _ | .captured _ _ _ => true
  | .call (.rowGet _) receiver args =>
    Expr.ownerOnlyReadsParameters receiver && Expr.allOnlyReadParameters args
  | .call (.named _ _) receiver args =>
    Expr.receiverOnlyReadsParameters receiver && Expr.allOnlyReadParameters args
  | .member receiver _ => Expr.ownerOnlyReadsParameters receiver
  | .binary _ left right => left.onlyReadsParameters && right.onlyReadsParameters
  | .unary _ operand => operand.onlyReadsParameters
  | .convert operand _ => operand.onlyReadsParameters

def Expr.ownerOnlyReadsParameters : Option Expr → Bool
  | none => true
  | some (.parameter _ _) => true
  | some e => e.onlyReadsParameters

def Expr.receiverOnlyReadsParameters : Option Expr → Bool
  | none => true
  | some e => e.onlyReadsParameters

def Expr.allOnlyReadParameters : List Expr → Bool
  | [] => true
  | e :: rest => e.onlyReadsParameters && Expr.allOnlyReadParameters rest

end

def Value.RowsAnswerAlike (v w : Value) : Prop :=
  ∃ r s : Row, v = .row r ∧ w = .row s ∧ r.AnswersAs s

/-- Whether a parameter is unbound in both bindings, or bound to rows which answer alike. -/
def Bindings.AnswerAlikeAt (b c : Bindings) (name : String) : Prop :=
  Option.Rel Value.RowsAnswerAlike (b.value? name) (c.value? name)

namespace Row.AnswersAs

variable {r s : Row} (h : r.AnswersAs s)
include h

theorem lookUp_eq (name : String) : r.lookUp name = s.lookUp name := by
  simp only [lookUp, h name]

theorem getAs_eq (name : String) (type : ColumnType) : r.getAs name type = s.getAs name type := by
  simp only [getAs, h.lookUp_eq]

theorem read_eq (m : Member) : m.read r = m.read s := by
  cases m with
  | declared name type => exact h.lookUp_eq name
  | row p => simp only [Member.read, Property.typedValueIn, Property.valueIn, h.lookUp_eq]

theorem apply_rowGet_eq (type : ColumnType) (args : List Value) :
    (Method.rowGet type).apply (.row r) args = (Method.rowGet type).apply (.row s) args := by
  simp only [Method.apply, Value.expectRow, Value.asRow?, bind, Except.bind, h.getAs_eq]

end Row.AnswersAs

section Runs

variable {b c : Bindings}

mutual

/-- An expression that only reads its parameters cannot tell rows apart that answer every read
alike. -/
theorem Expr.evaluate_of_answerAlikeAt (e : Expr) (honly : e.onlyReadsParameters = true)
    (h : ∀ x ∈ e.parameters, b.AnswerAlikeAt c x) : e.evaluate b = e.evaluate c := by
  cases e with
  | parameter name type => simp [Expr.onlyReadsParameters] at honly
  | constant v type => rfl
  | captured name v type => rfl
  | call method receiver args =>
    simp only [Expr.parameters_call, List.forall_mem_append] at h
    cases method with
    | rowGet type =>
      simp only [Expr.onlyReadsParameters, Bool.and_eq_true] at honly
      have hargs := Expr.evaluateAll_of_answerAlikeAt args honly.2 h.2
      simp only [Expr.evaluate, hargs]
      apply Expr.evaluateOwner_of_answerAlikeAt _ receiver honly.1 h.1
      intro r s hrs
      simp only [hrs.apply_rowGet_eq]
    | named name type =>
      simp only [Expr.onlyReadsParameters, Bool.and_eq_true] at honly
      have hargs := Expr.evaluateAll_of_answerAlikeAt args honly.2 h.2
      have hreceiver := Expr.evaluateReceiver_of_answerAlikeAt
        (.receiverMissing (Method.named name type).text) receiver honly.1 h.1
      simp only [Expr.evaluate, hreceiver, hargs]
  | member receiver m =>
    rw [Expr.parameters_member] at h
    simp only [Expr.evaluate]
    apply Expr.evaluateOwner_of_answerAlikeAt _ receiver honly h
    intro r s hrs
    simp only [Value.expectRow, Value.asRow?, bind, Except.bind, hrs.read_eq]
  | binary op left right =>
    simp only [Expr.onlyReadsParameters, Bool.and_eq_true] at honly
    simp only [Expr.parameters_binary, List.forall_mem_append] at h
    have hl := Expr.evaluate_of_answerAlikeAt left honly.1 h.1
    have hr := Expr.evaluate_of_answerAlikeAt right honly.2 h.2
    simp only [Expr.evaluate, hl, hr]
  | unary op operand =>
    rw [Expr.parameters_unary] at h
    have ho := Expr.evaluate_of_answerAlikeAt operand honly h
    simp only [Expr.evaluate, ho]
  | convert operand type =>
    rw [Expr.parameters_convert] at h
    have ho := Expr.evaluate_of_answerAlikeAt operand honly h
    simp only [Expr.evaluate, ho]

/-- What goes on with a row that is read from does not depend on which of two rows it is, as long
as it does the same with rows that answer alike. -/
theorem Expr.evaluateOwner_of_answerAlikeAt {α : Type} {f : Value → Except EvalError α}
    (missing : TypeFault) (receiver : Option Expr)
    (honly : Expr.ownerOnlyReadsParameters receiver = true)
    (h : ∀ x ∈ Expr.receiverParameters receiver, b.AnswerAlikeAt c x)
    (hf : ∀ r s : Row, r.AnswersAs s → f (.row r) = f (.row s)) :
    Expr.evaluateReceiver b missing receiver >>= f =
      Expr.evaluateReceiver c missing receiver >>= f := by
  cases receiver with
  | none => rfl
  | some e =>
    cases e with
    | parameter name type =>
      have hbound : b.AnswerAlikeAt c name := h name (by simp)
      unfold Bindings.AnswerAlikeAt at hbound
      simp only [Expr.evaluateReceiver, Expr.evaluate]
      generalize b.value? name = v, c.value? name = w at hbound
      cases hbound with
      | none => rfl
      | some hrows =>
        obtain ⟨r, s, rfl, rfl, hrs⟩ := hrows
        exact hf r s hrs
    | _ =>
      have he := Expr.evaluate_of_answerAlikeAt _ honly h
      simp only [Expr.evaluateReceiver, he]

theorem Expr.evaluateReceiver_of_answerAlikeAt (missing : TypeFault) (receiver : Option Expr)
    (honly : Expr.receiverOnlyReadsParameters receiver = true)
    (h : ∀ x ∈ Expr.receiverParameters receiver, b.AnswerAlikeAt c x) :
    Expr.evaluateReceiver b missing receiver = Expr.evaluateReceiver c missing receiver := by
  cases receiver with
  | none => rfl
  | some e => exact Expr.evaluate_of_answerAlikeAt e honly h

theorem Expr.evaluateAll_of_answerAlikeAt (args : List Expr)
    (honly : Expr.allOnlyReadParameters args = true)
    (h : ∀ x ∈ Expr.allParameters args, b.AnswerAlikeAt c x) :
    Expr.evaluateAll b args = Expr.evaluateAll c args := by
  cases args with
  | nil => rfl
  | cons e rest =>
    simp only [Expr.allOnlyReadParameters, Bool.and_eq_true] at honly
    simp only [Expr.allParameters_cons, List.forall_mem_append] at h
    have he := Expr.evaluate_of_answerAlikeAt e honly.1 h.1
    have hrest := Expr.evaluateAll_of_answerAlikeAt rest honly.2 h.2
    simp only [Expr.evaluateAll, he, hrest]

end

end Runs

/-- Rows that have the same columns in any order, with their names in any spelling, answer alike,
and an expression that only reads from its parameters has the same result, be it a value or an
error, for all rows which answer alike. -/
theorem Expr.evaluate_of_rowsAnswerAlike :
    (∀ r s : Row, (columnKeys r.columns).Nodup → (columnKeys s.columns).Nodup →
      (r.AnswersAs s ↔ r.keyed.Perm s.keyed)) ∧
      ∀ (e : Expr) (b c : Bindings), e.onlyReadsParameters = true →
        (∀ x ∈ e.parameters, b.AnswerAlikeAt c x) → e.evaluate b = e.evaluate c :=
  ⟨fun _ _ hr hs => Row.answersAs_iff_perm hr hs,
    fun e _ _ honly h => evaluate_of_answerAlikeAt e honly h⟩

def Expr.neighbour : Expr :=
  .binary .and
    (.binary .le (.member (some (.column (.row "person") .row "Home")) (.declared "Street" .string))
      (.ofValue (.string "Elm")))
    (.binary .gt (.member (some (.row "person")) (.row ⟨1, "Age", .ofEdm .int32⟩))
      (.ofValue (.int32 30)))

def Row.elmHome : Row := .ofColumns [("street", .string "Elm")]

def Row.listedPerson : Row :=
  .ofColumns [("HOME", .row elmHome), ("age", .string "forty")]

def Row.relistedPerson : Row :=
  .ofColumns [("Age", .string "forty"), ("home", .row elmHome)]

/-- The age is refused in the same words for both rows. -/
theorem Expr.evaluate_of_rowsAnswerAlike_neighbour :
    neighbour.onlyReadsParameters = true ∧
      (∀ x ∈ neighbour.parameters, (Bindings.empty.bind "person" (.row .listedPerson)).AnswerAlikeAt
        (Bindings.empty.bind "person" (.row .relistedPerson)) x) ∧
      neighbour.evaluate (Bindings.empty.bind "person" (.row .listedPerson)) =
        .error (.row (.typeMismatch "Age" "forty" (.ofEdm .int32))) ∧
      neighbour.evaluate (Bindings.empty.bind "person" (.row .relistedPerson)) =
        .error (.row (.typeMismatch "Age" "forty" (.ofEdm .int32))) := by
  have hlisted : (columnKeys Row.listedPerson.columns).Nodup := by decide +kernel
  have hrelisted : (columnKeys Row.relistedPerson.columns).Nodup := by decide +kernel
  have hhome : columnKey "HOME" = columnKey "home" := by decide +kernel
  have hage : columnKey "age" = columnKey "Age" := by decide +kernel
  have hperm : Row.listedPerson.keyed.Perm Row.relistedPerson.keyed := by
    simp only [Row.keyed, Row.listedPerson, Row.relistedPerson, Row.columns, List.map, hhome, hage]
    exact List.Perm.swap _ _ _
  have hanswers : Row.listedPerson.AnswersAs .relistedPerson :=
    (evaluate_of_rowsAnswerAlike.1 _ _ hlisted hrelisted).mpr hperm
  have halike : ∀ x ∈ neighbour.parameters,
      (Bindings.empty.bind "person" (.row .listedPerson)).AnswerAlikeAt
        (Bindings.empty.bind "person" (.row .relistedPerson)) x := by
    intro x hx
    have hperson : x = "person" := by simpa [neighbour, column, row, ofName, ofValue] using hx
    subst hperson
    exact .some ⟨_, _, rfl, rfl, hanswers⟩
  have hresult : neighbour.evaluate (Bindings.empty.bind "person" (.row .listedPerson)) =
      .error (.row (.typeMismatch "Age" "forty" (.ofEdm .int32))) := rfl
  have hsame := evaluate_of_rowsAnswerAlike.2 neighbour _ _ rfl halike
  exact ⟨rfl, halike, hresult, hsame ▸ hresult⟩

end RowQuery
