import RowQuery.Proofs.Expr.NormalForm

/-!
The three forms of an expression give the same values. Where they fail, they
fail for the same kind of reason; the message may differ only in the spelling
of a column and in what it calls a read that has no receiver. Errors are
therefore compared through a view that may be blind to these two things.
-/

namespace RowQuery

inductive RowError.Kind where
  | missingColumn
  | typeMismatch
  | readOnly
  | unsupportedShape
deriving DecidableEq, Repr

def RowError.kind : RowError → RowError.Kind
  | .missingColumn _ => .missingColumn
  | .typeMismatch _ _ _ => .typeMismatch
  | .readOnly _ => .readOnly
  | .unsupportedShape _ => .unsupportedShape

inductive EvalError.Kind where
  | unbound
  | row (kind : RowError.Kind)
  | type
  | divisionByZero
deriving DecidableEq, Repr

def EvalError.kind : EvalError → EvalError.Kind
  | .unbound _ => .unbound
  | .row error => .row error.kind
  | .type _ => .type
  | .divisionByZero => .divisionByZero

section Results

variable {ε κ α β : Type} {φ : ε → κ}

theorem mapError_bind {x y : Except ε α} {f g : α → Except ε β}
    (hx : x.mapError φ = y.mapError φ) (hf : ∀ a, (f a).mapError φ = (g a).mapError φ) :
    (x >>= f).mapError φ = (y >>= g).mapError φ := by
  cases x with
  | error a =>
    cases y with
    | error b =>
      have hab : φ a = φ b := Except.error.inj hx
      exact congrArg Except.error hab
    | ok b => exact nomatch hx
  | ok a =>
    cases y with
    | error b => exact nomatch hx
    | ok b =>
      obtain rfl : a = b := Except.ok.inj hx
      exact hf a

theorem mapError_id (x : Except ε α) : x.mapError id = x := by
  cases x <;> rfl

end Results

section Views

variable {κ : Type} (φ : EvalError → κ)

/-- The view does not show what kind of expression lacks a receiver. -/
def ForgetsReceivers : Prop :=
  ∀ method member, φ (.type (.receiverMissing method)) = φ (.type (.ownerMissing member))

/-- The view does not show how the column of a failed read is spelled. -/
def ForgetsSpelling : Prop :=
  ∀ m n, φ (.row (.missingColumn m)) = φ (.row (.missingColumn n)) ∧
    ∀ v type, φ (.row (.typeMismatch m v type)) = φ (.row (.typeMismatch n v type))

end Views

theorem EvalError.kind_forgetsReceivers : ForgetsReceivers EvalError.kind :=
  fun _ _ => rfl

theorem EvalError.kind_forgetsSpelling : ForgetsSpelling EvalError.kind :=
  fun _ _ => ⟨rfl, fun _ _ => rfl⟩

/-- A row finds a column by any spelling of its name. -/
theorem Row.value?_congr (row : Row) {m n : String} (h : columnKey m = columnKey n) :
    row.value? m = row.value? n := by
  simp only [Row.value?, Row.position?, h]

/-- A typed property is read as a column of its name and type. -/
theorem Property.typedValueIn_eq (p : Property) (row : Row) :
    p.typedValueIn row = row.getAs p.name p.columnType := rfl

/-- The registry spells the column as the read does. -/
def TypedRead.SpelledAsIn (r : Registry) (c : TypedRead) : Prop :=
  ∀ name, c.columnName = .ok name → r.spelling name c.type = name

section Evaluation

variable {κ : Type} {φ : EvalError → κ} (b : Bindings)

theorem Row.getAs_mapError (row : Row) {m n : String} (type : ColumnType)
    (hkey : columnKey m = columnKey n) (h : ForgetsSpelling φ ∨ m = n) :
    (EvalError.ofRead (row.getAs m type)).mapError φ =
      (EvalError.ofRead (row.getAs n type)).mapError φ := by
  rcases h with h | rfl
  · simp only [Row.getAs, Row.lookUp, row.value?_congr hkey]
    cases row.value? n with
    | none => exact congrArg Except.error (h m n).1
    | some v =>
      simp only [bind, Except.bind]
      cases type.accepts v with
      | true => rfl
      | false => exact congrArg Except.error ((h m n).2 v.text type)
  · rfl

/-- A typed read whose column name is known reads the column of the name. -/
theorem Expr.evaluate_typedRead {type : ColumnType} {receiver : Option Expr} {args : List Expr}
    {name : String} (h : Expr.columnName type args = .ok name) :
    (Expr.call (.rowGet type) receiver args).evaluate b =
      (do
        let v ← Expr.evaluateReceiver b (.receiverMissing (Method.rowGet type).text) receiver
        let row ← v.expectRow
        EvalError.ofRead (row.getAs name type)) := by
  obtain ⟨e, rfl, hparams, hv, -⟩ := Expr.columnName_eq_ok_iff.mp h
  rw [← Expr.evaluate_of_hasParameters_eq_false b .empty e hparams] at hv
  simp only [Expr.evaluate, Expr.evaluateAll, hv, Method.apply]
  rfl

/-- An operator passes on the error of its right side, if it looks at that side at all. -/
theorem BinaryOp.applyTo_mapError (op : BinaryOp) (l : Value) {x y : Except EvalError Value}
    (h : x.mapError φ = y.mapError φ) :
    (op.applyTo l x).mapError φ = (op.applyTo l y).mapError φ := by
  unfold BinaryOp.applyTo
  by_cases hop : op = .and ∨ op = .or
  · simp only [if_pos hop]
    refine mapError_bind rfl fun decided => ?_
    by_cases hd : (decided = true) = (op = .or)
    · simp only [if_pos hd]
    · simp only [if_neg hd]
      exact mapError_bind h fun r => rfl
  · simp only [if_neg hop]
    exact mapError_bind h fun r => rfl

variable (r : Registry)

mutual

/-- A property is read as the typed read was, up to what the view forgets. -/
theorem Expr.evaluate_withProperties (e : Expr) (h : ∀ c ∈ e.reads, c.RegisteredIn r)
    (hreceivers : ForgetsReceivers φ ∨ ∀ d ∈ e.nodes, d.lacksReceiver = false)
    (hnames : ForgetsSpelling φ ∨ ∀ c ∈ e.reads, c.SpelledAsIn r) :
    ((e.withProperties r).evaluate b).mapError φ = (e.evaluate b).mapError φ := by
  cases e with
  | parameter name type => rfl
  | constant v type => rfl
  | captured name v type => rfl
  | call method receiver args =>
    simp only [Expr.nodes, List.forall_mem_cons, List.forall_mem_append] at hreceivers
    cases method with
    | rowGet type =>
      simp only [Expr.reads, List.mem_cons, forall_eq_or_imp] at h hnames
      obtain ⟨p, hp⟩ := h.1
      obtain ⟨name, hname, hfound⟩ := TypedRead.property?_eq_some_iff.mp hp
      obtain ⟨htype, hkey⟩ := Registry.property?_key hfound
      have hread := Expr.evaluateReceiver_withProperties receiver
        (.ownerMissing p.name) (.receiverMissing (Method.rowGet type).text) h.2
        (fun hnone => hreceivers.elim (fun hφ => (hφ _ _).symm)
          fun hnodes => by simp [hnone, Expr.lacksReceiver] at hnodes)
        (hreceivers.imp_right fun hnodes => hnodes.2.1) (hnames.imp_right And.right)
      have hspelling : ForgetsSpelling φ ∨ p.name = name := hnames.imp_right fun hnamed => by
        rw [← Registry.spelling_of_property? hfound, hnamed.1 name hname]
      rw [Expr.evaluate_typedRead b hname]
      simp only [Expr.withProperties, hp, Expr.evaluate, Member.read, Property.typedValueIn_eq,
        htype]
      refine mapError_bind hread fun v => mapError_bind rfl fun row => ?_
      exact row.getAs_mapError type hkey hspelling
    | named name type =>
      simp only [Expr.reads, List.forall_mem_append] at h hnames
      have hread := Expr.evaluateReceiver_withProperties receiver
        (.receiverMissing (Method.named name type).text)
        (.receiverMissing (Method.named name type).text) h.1 (fun _ => rfl)
        (hreceivers.imp_right fun hnodes => hnodes.2.1) (hnames.imp_right And.left)
      have hargs := Expr.evaluateAll_withProperties args h.2
        (hreceivers.imp_right fun hnodes => hnodes.2.2) (hnames.imp_right And.right)
      simp only [Expr.withProperties, Expr.evaluate]
      exact mapError_bind hread fun v => mapError_bind hargs fun vs => rfl
  | member receiver m =>
    simp only [Expr.nodes, List.forall_mem_cons] at hreceivers
    have hread := Expr.evaluateReceiver_withProperties receiver (.ownerMissing m.name)
      (.ownerMissing m.name) h (fun _ => rfl) (hreceivers.imp_right And.right) hnames
    simp only [Expr.withProperties, Expr.evaluate]
    exact mapError_bind hread fun v => rfl
  | binary op left right =>
    simp only [Expr.nodes, List.forall_mem_cons, List.forall_mem_append] at hreceivers
    simp only [Expr.reads, List.forall_mem_append] at h hnames
    have hl := Expr.evaluate_withProperties left h.1
      (hreceivers.imp_right fun hnodes => hnodes.2.1) (hnames.imp_right And.left)
    have hr := Expr.evaluate_withProperties right h.2
      (hreceivers.imp_right fun hnodes => hnodes.2.2) (hnames.imp_right And.right)
    simp only [Expr.withProperties, Expr.evaluate_binary]
    exact mapError_bind hl fun l => op.applyTo_mapError l hr
  | unary op operand =>
    simp only [Expr.nodes, List.forall_mem_cons] at hreceivers
    have ho := Expr.evaluate_withProperties operand h (hreceivers.imp_right And.right) hnames
    simp only [Expr.withProperties, Expr.evaluate]
    exact mapError_bind ho fun v => rfl
  | convert operand type =>
    simp only [Expr.nodes, List.forall_mem_cons] at hreceivers
    have ho := Expr.evaluate_withProperties operand h (hreceivers.imp_right And.right) hnames
    simp only [Expr.withProperties, Expr.evaluate]
    exact mapError_bind ho fun v => rfl

theorem Expr.evaluateReceiver_withProperties (receiver : Option Expr) (new old : TypeFault)
    (h : ∀ c ∈ Expr.receiverReads receiver, c.RegisteredIn r)
    (hnone : receiver = none → φ (.type new) = φ (.type old))
    (hreceivers : ForgetsReceivers φ ∨ ∀ d ∈ Expr.receiverNodes receiver, d.lacksReceiver = false)
    (hnames : ForgetsSpelling φ ∨ ∀ c ∈ Expr.receiverReads receiver, c.SpelledAsIn r) :
    (Expr.evaluateReceiver b new (Expr.receiverWithProperties r receiver)).mapError φ =
      (Expr.evaluateReceiver b old receiver).mapError φ := by
  cases receiver with
  | none => exact congrArg Except.error (hnone rfl)
  | some e => exact Expr.evaluate_withProperties e h hreceivers hnames

theorem Expr.evaluateAll_withProperties (args : List Expr)
    (h : ∀ c ∈ Expr.allReads args, c.RegisteredIn r)
    (hreceivers : ForgetsReceivers φ ∨ ∀ d ∈ Expr.allNodes args, d.lacksReceiver = false)
    (hnames : ForgetsSpelling φ ∨ ∀ c ∈ Expr.allReads args, c.SpelledAsIn r) :
    (Expr.evaluateAll b (Expr.allWithProperties r args)).mapError φ =
      (Expr.evaluateAll b args).mapError φ := by
  cases args with
  | nil => rfl
  | cons e rest =>
    simp only [Expr.allNodes, List.forall_mem_append] at hreceivers
    simp only [Expr.allReads, List.forall_mem_append] at h hnames
    have he := Expr.evaluate_withProperties e h.1 (hreceivers.imp_right And.left)
      (hnames.imp_right And.left)
    have hrest := Expr.evaluateAll_withProperties rest h.2 (hreceivers.imp_right And.right)
      (hnames.imp_right And.right)
    simp only [Expr.allWithProperties, Expr.evaluateAll]
    exact mapError_bind he fun v => mapError_bind hrest fun vs => rfl

end

mutual

/-- A typed read gives what the property did, up to what the view forgets. -/
theorem Expr.evaluate_denormalize (e : Expr)
    (hreceivers : ForgetsReceivers φ ∨ ∀ d ∈ e.nodes, d.lacksReceiver = false) :
    (e.denormalize.evaluate b).mapError φ = (e.evaluate b).mapError φ := by
  cases e with
  | parameter name type => rfl
  | constant v type => rfl
  | captured name v type => rfl
  | call method receiver args =>
    simp only [Expr.nodes, List.forall_mem_cons, List.forall_mem_append] at hreceivers
    have hread := Expr.evaluateReceiver_denormalize receiver (.receiverMissing method.text)
      (.receiverMissing method.text) (fun _ => rfl) (hreceivers.imp_right fun hnodes => hnodes.2.1)
    have hargs := Expr.evaluateAll_denormalize args
      (hreceivers.imp_right fun hnodes => hnodes.2.2)
    simp only [Expr.denormalize, Expr.evaluate]
    exact mapError_bind hread fun v => mapError_bind hargs fun vs => rfl
  | member receiver m =>
    simp only [Expr.nodes, List.forall_mem_cons] at hreceivers
    cases m with
    | declared name type =>
      have hread := Expr.evaluateReceiver_denormalize receiver (.ownerMissing name)
        (.ownerMissing name) (fun _ => rfl) (hreceivers.imp_right And.right)
      simp only [Expr.denormalize, Expr.evaluate]
      exact mapError_bind hread fun v => rfl
    | row p =>
      have hread := Expr.evaluateReceiver_denormalize receiver
        (.receiverMissing (Method.rowGet p.columnType).text) (.ownerMissing p.name)
        (fun hnone => hreceivers.elim (fun hφ => hφ _ _)
          fun hnodes => by simp [hnone, Expr.lacksReceiver] at hnodes)
        (hreceivers.imp_right And.right)
      simp only [Expr.denormalize, Expr.evaluate, Expr.evaluateAll, Member.read,
        Property.typedValueIn_eq]
      exact mapError_bind hread fun v => mapError_bind rfl fun row => rfl
  | binary op left right =>
    simp only [Expr.nodes, List.forall_mem_cons, List.forall_mem_append] at hreceivers
    have hl := Expr.evaluate_denormalize left (hreceivers.imp_right fun hnodes => hnodes.2.1)
    have hr := Expr.evaluate_denormalize right (hreceivers.imp_right fun hnodes => hnodes.2.2)
    simp only [Expr.denormalize, Expr.evaluate_binary]
    exact mapError_bind hl fun l => op.applyTo_mapError l hr
  | unary op operand =>
    simp only [Expr.nodes, List.forall_mem_cons] at hreceivers
    have ho := Expr.evaluate_denormalize operand (hreceivers.imp_right And.right)
    simp only [Expr.denormalize, Expr.evaluate]
    exact mapError_bind ho fun v => rfl
  | convert operand type =>
    simp only [Expr.nodes, List.forall_mem_cons] at hreceivers
    have ho := Expr.evaluate_denormalize operand (hreceivers.imp_right And.right)
    simp only [Expr.denormalize, Expr.evaluate]
    exact mapError_bind ho fun v => rfl

theorem Expr.evaluateReceiver_denormalize (receiver : Option Expr) (new old : TypeFault)
    (hnone : receiver = none → φ (.type new) = φ (.type old))
    (hreceivers : ForgetsReceivers φ ∨
      ∀ d ∈ Expr.receiverNodes receiver, d.lacksReceiver = false) :
    (Expr.evaluateReceiver b new (Expr.denormalizeReceiver receiver)).mapError φ =
      (Expr.evaluateReceiver b old receiver).mapError φ := by
  cases receiver with
  | none => exact congrArg Except.error (hnone rfl)
  | some e => exact Expr.evaluate_denormalize e hreceivers

theorem Expr.evaluateAll_denormalize (args : List Expr)
    (hreceivers : ForgetsReceivers φ ∨ ∀ d ∈ Expr.allNodes args, d.lacksReceiver = false) :
    (Expr.evaluateAll b (Expr.denormalizeAll args)).mapError φ =
      (Expr.evaluateAll b args).mapError φ := by
  cases args with
  | nil => rfl
  | cons e rest =>
    simp only [Expr.allNodes, List.forall_mem_append] at hreceivers
    have he := Expr.evaluate_denormalize e (hreceivers.imp_right And.left)
    have hrest := Expr.evaluateAll_denormalize rest (hreceivers.imp_right And.right)
    simp only [Expr.denormalizeAll, Expr.evaluateAll]
    exact mapError_bind he fun v => mapError_bind hrest fun vs => rfl

end

end Evaluation

theorem Expr.lacksReceiver_withProperties (r : Registry) (e : Expr)
    (h : ∀ c ∈ e.reads, c.RegisteredIn r) (hnodes : ∀ d ∈ e.nodes, d.lacksReceiver = false) :
    ∀ d ∈ (e.withProperties r).nodes, d.lacksReceiver = false := by
  intro d hd
  obtain ⟨o, ho, hreads, rfl⟩ := Expr.mem_nodes_withProperties r e h d hd
  have hreceiver := hnodes o ho
  cases o with
  | call method receiver args =>
    cases receiver with
    | none => simp [Expr.lacksReceiver] at hreceiver
    | some q =>
      cases method with
      | rowGet type =>
        obtain ⟨p, hp⟩ := hreads ⟨type, args⟩ (by simp [Expr.reads])
        simp only [Expr.withProperties, hp]
        rfl
      | named name type => rfl
  | member receiver m =>
    cases receiver with
    | none => simp [Expr.lacksReceiver] at hreceiver
    | some q => rfl
  | parameter | constant | captured | binary | unary | convert => rfl

/-- An expression, its normalized form and that form denormalized have the same value or fail alike.
Where nothing lacks a receiver and the registry spells all columns as the expression does, they
have the very same result. -/
theorem Expr.evaluate_rewritten (b : Bindings) (r s : Registry) (e n : Expr)
    (h : e.normalizeIn r = (.ok n, s)) :
    (n.evaluate b).mapError EvalError.kind = (e.evaluate b).mapError EvalError.kind ∧
      (n.denormalize.evaluate b).mapError EvalError.kind =
        (e.evaluate b).mapError EvalError.kind ∧
      ((∀ d ∈ e.nodes, d.lacksReceiver = false) → (∀ c ∈ e.reads, c.SpelledAsIn s) →
        n.evaluate b = e.evaluate b ∧ n.denormalize.evaluate b = e.evaluate b) := by
  obtain ⟨-, hreads, rfl⟩ := Expr.eq_withProperties h
  have hkind := Expr.evaluate_withProperties b s e hreads
    (Or.inl EvalError.kind_forgetsReceivers) (Or.inl EvalError.kind_forgetsSpelling)
  refine ⟨hkind, ?_, fun hnodes hnames => ?_⟩
  · rw [Expr.evaluate_denormalize b _ (Or.inl EvalError.kind_forgetsReceivers), hkind]
  · have hsame := Expr.evaluate_withProperties (φ := id) b s e hreads (Or.inr hnodes)
      (Or.inr hnames)
    have hback := Expr.evaluate_denormalize (φ := id) b (e.withProperties s)
      (Or.inr (Expr.lacksReceiver_withProperties s e hreads hnodes))
    simp only [mapError_id] at hsame hback
    exact ⟨hsame, hback.trans hsame⟩

def Bindings.withoutAge : Bindings :=
  Bindings.empty.bind "r" (.row (.ofColumns [("home", .row (.ofColumns [("Street", .null)]))]))

theorem Expr.evaluate_rewritten_adult :
    (Expr.adult "Home" "AGE").normalizeIn .ofAge = (.ok .adultNormalized, .ofAgeAndHome) ∧
      (Expr.adult "Home" "AGE").evaluate .withoutAge = .error (.row (.missingColumn "AGE")) ∧
      (Expr.adultNormalized.evaluate .withoutAge).mapError EvalError.kind =
        ((Expr.adult "Home" "AGE").evaluate .withoutAge).mapError EvalError.kind ∧
      (Expr.adult "Home" "age").normalizeIn .ofAge = (.ok .adultNormalized, .ofAgeAndHome) ∧
      Expr.adultNormalized.evaluate .withoutAge = (Expr.adult "Home" "age").evaluate .withoutAge ∧
      Expr.adultNormalized.denormalize.evaluate .withoutAge =
        (Expr.adult "Home" "age").evaluate .withoutAge := by
  refine ⟨rfl, rfl, (Expr.evaluate_rewritten .withoutAge .ofAge .ofAgeAndHome _ _ rfl).1, rfl, ?_⟩
  refine (Expr.evaluate_rewritten .withoutAge .ofAge .ofAgeAndHome _ _ rfl).2.2 (by decide) ?_
  intro c hc name hname
  rcases List.mem_cons.mp hc with rfl | hc
  · cases hname
    decide
  · rcases List.mem_singleton.mp hc with rfl
    cases hname
    decide

end RowQuery
