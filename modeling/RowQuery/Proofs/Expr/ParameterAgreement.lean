import RowQuery.Proofs.Expr.Agreement

/-!
What a result depends on. Bindings that agree on the parameters of an expression
give it the same value or the same error. An argument without parameters gives a
typed read the same column name under all bindings, so normalizing may look the
name up before there are any.
-/

namespace RowQuery

namespace Expr

/-- The column name that an argument gives to a read of a type when evaluated with bindings. -/
def columnNameUnder (b : Bindings) (type : ColumnType) (e : Expr) :
    Except NormalizeError String :=
  match e.evaluate b with
  | .ok v => v.columnName type
  | .error _ => .error (.unresolved type)

variable {type : ColumnType} {e : Expr} {args : List Expr} {name : String}

theorem columnName_eq_columnNameUnder (h : e.hasParameters = false) (b : Bindings) :
    Expr.columnName type [e] = e.columnNameUnder b type := by
  have hvalue := e.evaluate_of_hasParameters_eq_false .empty b h
  simp only [Expr.columnName, h, Bool.false_eq_true, if_false, hvalue]
  rfl

/-- The constant that a column name becomes gives that name. -/
theorem columnName_ofName_of_columnName (h : Expr.columnName type args = .ok name) :
    Expr.columnName type [ofName name] = .ok name := by
  obtain ⟨-, -, -, -, hblank⟩ := columnName_eq_ok_iff.mp h
  exact columnName_eq_ok_iff.mpr ⟨ofName name, rfl, rfl, rfl, hblank⟩

/-- A typed read may have the constant in place of the argument that gives its column name. -/
theorem evaluate_call_ofName (h : Expr.columnName type args = .ok name) (b : Bindings)
    (receiver : Option Expr) :
    (call (.rowGet type) receiver args).evaluate b =
      (call (.rowGet type) receiver [ofName name]).evaluate b := by
  rw [evaluate_typedRead b h, evaluate_typedRead b (columnName_ofName_of_columnName h)]

/-- An expression has one result, be it a value or an error, for all bindings which agree on the
parameters that occur in it. Those without parameters have one for all bindings: the column name
that a typed read gets from such an argument without any bindings is the one that the argument
evaluates to with whatever bindings, and the read is that of the column so named. -/
theorem evaluate_of_parametersAgree :
    (∀ (e : Expr) (b c : Bindings), (∀ x ∈ e.parameters, b.value? x = c.value? x) →
      e.evaluate b = e.evaluate c) ∧
    (∀ e : Expr, e.hasParameters = false ↔ e.parameters = []) ∧
    (∀ (type : ColumnType) (e : Expr) (b : Bindings), e.hasParameters = false →
      Expr.columnName type [e] = e.columnNameUnder b type) ∧
    ∀ (type : ColumnType) (args : List Expr) (name : String),
      Expr.columnName type args = .ok name → ∀ (b : Bindings) (receiver : Option Expr),
        (call (.rowGet type) receiver args).evaluate b =
          (call (.rowGet type) receiver [ofName name]).evaluate b :=
  ⟨fun e b c h => e.evaluate_congr b c h, fun e => e.parameters_eq_nil_iff.symm,
    fun _ _ b h => columnName_eq_columnNameUnder h b,
    fun _ _ _ h b receiver => evaluate_call_ofName h b receiver⟩

def capturedName : Expr :=
  .convert (.captured "key" (.string "Age") .any) .string

def capturedAge : Expr :=
  .call (.rowGet (.ofEdm .int32)) (some (row "person")) [capturedName]

def onePerson : Bindings :=
  Bindings.empty.bind "person" (.row (.ofColumns [("Age", .string "forty")]))

/-- The binding of a key has no part in what the captured key is. -/
theorem evaluate_of_parametersAgree_capturedAge :
    (∀ x ∈ capturedAge.parameters,
      onePerson.value? x = (onePerson.bind "key" (.string "Name")).value? x) ∧
    capturedAge.evaluate onePerson = .error (.row (.typeMismatch "Age" "forty" (.ofEdm .int32))) ∧
    capturedAge.evaluate (onePerson.bind "key" (.string "Name")) =
      .error (.row (.typeMismatch "Age" "forty" (.ofEdm .int32))) ∧
    capturedName.hasParameters = false ∧
    capturedName.columnNameUnder (onePerson.bind "key" (.string "Name")) (.ofEdm .int32) =
      .ok "Age" ∧
    capturedAge.evaluate onePerson =
      (column (row "person") (.ofEdm .int32) "Age").evaluate onePerson := by
  have hagree : ∀ x ∈ capturedAge.parameters,
      onePerson.value? x = (onePerson.bind "key" (.string "Name")).value? x := by
    intro x hx
    have hperson : x = "person" := by simpa [capturedAge, capturedName, row] using hx
    subst hperson
    rfl
  have hresult : capturedAge.evaluate onePerson =
      .error (.row (.typeMismatch "Age" "forty" (.ofEdm .int32))) := rfl
  have hname : Expr.columnName (.ofEdm .int32) [capturedName] = .ok "Age" := rfl
  obtain ⟨hsame, -, hunder, hread⟩ := evaluate_of_parametersAgree
  have hclosed : capturedName.hasParameters = false := rfl
  exact ⟨hagree, hresult, hsame _ _ _ hagree ▸ hresult, hclosed, hunder _ _ _ hclosed ▸ hname,
    hread _ _ _ hname _ _⟩

end Expr

end RowQuery
