import RowQuery.Proofs.Expr.Evaluating

/-!
The static types of results. Conversions lead to the type they are asked for,
arithmetic to the common type of its operands, and logic and comparisons to
truth values. Null belongs to no type and passes through conversions only.
-/

namespace RowQuery

theorem bind_eq_ok_iff {ε α β : Type} {x : Except ε α} {f : α → Except ε β} {b : β} :
    x >>= f = .ok b ↔ ∃ a, x = .ok a ∧ f a = .ok b := by
  cases x <;> simp [bind, Except.bind]

namespace EdmType

theorem widensTo_refl (t : EdmType) : t.widensTo t = true := by
  simp [widensTo]

/-- Only numeric types widen to another one, and never back. -/
theorem isNumeric_of_widensTo {s t : EdmType} (h : s.widensTo t = true) (hne : s ≠ t) :
    s.isNumeric = true ∧ t.isNumeric = true ∧ t.widensTo s = false := by
  cases s <;> cases t <;> simp_all [widensTo, wider, isNumeric]

theorem ne_complex_of_isNumeric {t : EdmType} (h : t.isNumeric = true) : t ≠ .complex := by
  rintro rfl
  cases h

theorem commonType?_of_widensTo {s t : EdmType} (h : s.widensTo t = true) :
    Value.commonType? s t = some t := by
  simp [Value.commonType?, h]

theorem commonType?_comm {s t : EdmType} (h : s.widensTo t = true) (hne : s ≠ t) :
    Value.commonType? t s = some t := by
  have hback := (isNumeric_of_widensTo h hne).2.2
  simp [Value.commonType?, h, hback]

end EdmType

namespace Value

variable {v w l r l' r' : Value} {s t : EdmType} {n : Int} {op : BinaryOp}

theorem isNull_of_type (h : v.type? = some t) : v.isNull = false := by
  cases v with
  | null => cases h
  | _ => rfl

section Conversions

theorem ofInteger?_type (h : ofInteger? n t = some w) : w.type? = some t := by
  unfold ofInteger? at h
  split at h
  · cases t <;> simp at h <;> subst h <;> rfl
  · simp at h

theorem convertInteger?_type (h : convertInteger? n t = some w) : w.type? = some t := by
  unfold convertInteger? at h
  split at h
  · cases h
    rfl
  · cases h
    rfl
  · cases h
    rfl
  · exact ofInteger?_type h

theorem convertDouble?_type {x : Double} (h : convertDouble? x t = some w) :
    w.type? = some t := by
  unfold convertDouble? at h
  split at h
  · cases h
    rfl
  · cases h
    rfl
  · obtain ⟨d, -, rfl⟩ := Option.map_eq_some_iff.mp h
    rfl
  · obtain ⟨n, -, hn⟩ := Option.bind_eq_some_iff.mp h
    exact ofInteger?_type hn

theorem convertDecimal?_type {d : Decimal} (h : convertDecimal? d t = some w) :
    w.type? = some t := by
  unfold convertDecimal? at h
  split at h
  · cases h
    rfl
  · cases h
    rfl
  · cases h
    rfl
  · exact ofInteger?_type h

theorem convertNumeric?_type (h : v.convertNumeric? t = some w) : w.type? = some t := by
  unfold convertNumeric? at h
  split at h
  · exact convertDouble?_type h
  · exact convertDouble?_type h
  · exact convertDecimal?_type h
  · obtain ⟨n, -, hn⟩ := Option.bind_eq_some_iff.mp h
    exact convertInteger?_type hn

/-- What a column accepts is null or of its type, unless the column is untyped. -/
theorem type?_of_accepts {c : ColumnType} (h : c.accepts v = true) :
    v.isNull = true ∨ v.type? = some c.edmType ∨ c = .any := by
  unfold ColumnType.accepts at h
  split at h
  · exact Or.inl rfl
  · exact Or.inr (Or.inr rfl)
  · exact Or.inr (Or.inl rfl)
  · exact Or.inr (Or.inl rfl)
  · simp only [Bool.and_eq_true, beq_iff_eq] at h
    exact Or.inr (Or.inl h.2)
  · simp at h

theorem accepts_primitive {nullable : Bool} (hv : v.isNull = false) :
    (ColumnType.of (.primitive t) nullable).accepts v =
      (t != .complex && v.type? == some t) := by
  cases v with
  | null => simp [isNull] at hv
  | _ => rfl

theorem accepts_any (v : Value) : ColumnType.any.accepts v = true := by
  cases v <;> rfl

/-- A type other than a structured one accepts all values of it. -/
theorem accepts_of_type {c : ColumnType} (hv : v.type? = some c.edmType)
    (hc : c.edmType ≠ .complex) : c.accepts v = true := by
  cases c with
  | any => exact absurd rfl hc
  | of kind nullable =>
    cases kind with
    | row | list => exact absurd rfl hc
    | primitive t =>
      rw [ColumnType.edmType] at hv hc
      simp [accepts_primitive (isNull_of_type hv), hv, hc]

theorem edmType_of_accepts {c : ColumnType} (hany : c ≠ .any) (h : c.accepts v = true)
    (hv : v.type? = some t) : c.edmType = t := by
  rcases type?_of_accepts h with hnull | htype | hc
  · rw [isNull_of_type hv] at hnull
    cases hnull
  · exact Option.some.inj (htype.symm.trans hv)
  · exact absurd hc hany

/-- A conversion keeps a value that fits, and otherwise makes a number of a numeric type. -/
theorem convertTo_cases {c : ColumnType} (h : v.convertTo c = .ok w) :
    (c.accepts v = true ∧ w = v) ∨
      (c.edmType.isNumeric = true ∧ c.accepts v = false ∧
        v.convertNumeric? c.edmType = some w) := by
  unfold convertTo at h
  by_cases hc : c.accepts v = true
  · rw [if_pos hc] at h
    exact Or.inl ⟨hc, (Except.ok.inj h).symm⟩
  · rw [if_neg hc] at h
    simp only [Bool.not_eq_true] at hc
    refine Or.inr ?_
    cases c with
    | any => simp at h
    | of kind nullable =>
      cases kind with
      | primitive t =>
        by_cases ht : t.isNumeric = true
        · simp only [ht, if_true] at h
          cases hw : v.convertNumeric? t with
          | none => simp [hw] at h
          | some u =>
            simp only [hw, Except.ok.injEq] at h
            exact ⟨ht, hc, h ▸ hw⟩
        · simp [ht] at h
      | row => simp at h
      | list => simp at h

/-- A conversion ends in a value that its type accepts. -/
theorem accepts_of_convertTo {c : ColumnType} (h : v.convertTo c = .ok w) :
    c.accepts w = true := by
  rcases convertTo_cases h with ⟨haccepts, rfl⟩ | ⟨hnumeric, -, hconverted⟩
  · exact haccepts
  · exact accepts_of_type (convertNumeric?_type hconverted)
      (EdmType.ne_complex_of_isNumeric hnumeric)

end Conversions

section Operations

theorem widenTo_eq_ok_iff : v.widenTo t = .ok w ↔ v.convertNumeric? t = some w := by
  unfold widenTo
  cases v.convertNumeric? t <;> simp

/-- Two values stay as they are, unless they are numbers of different types: these are brought to
the common type. -/
theorem widen_cases (h : widen l r = .ok (l', r')) :
    (l' = l ∧ r' = r ∧ ∀ s t, l.type? = some s → r.type? = some t → s.isNumeric = true →
        t.isNumeric = true → s = t) ∨
      ∃ s t u, l.type? = some s ∧ r.type? = some t ∧ commonType? s t = some u ∧
        l.convertNumeric? u = some l' ∧ r.convertNumeric? u = some r' := by
  unfold widen at h
  split at h
  · rename_i s t hs ht
    split at h
    · rename_i hsame
      simp only [Except.ok.injEq, Prod.mk.injEq] at h
      refine Or.inl ⟨h.1.symm, h.2.symm, fun s' t' hs' ht' hsnum htnum => ?_⟩
      rw [hs, Option.some.injEq] at hs'
      rw [ht, Option.some.injEq] at ht'
      subst hs' ht'
      simpa [hsnum, htnum] using hsame
    · split at h
      · simp at h
      · rename_i u hu
        obtain ⟨a, ha, h⟩ := bind_eq_ok_iff.mp h
        obtain ⟨b, hb, h⟩ := bind_eq_ok_iff.mp h
        cases h
        exact Or.inr ⟨s, t, u, hs, ht, hu, widenTo_eq_ok_iff.mp ha, widenTo_eq_ok_iff.mp hb⟩
  · rename_i hnone
    simp only [Except.ok.injEq, Prod.mk.injEq] at h
    exact Or.inl ⟨h.1.symm, h.2.symm, fun s t hs ht => absurd ht (hnone s t hs)⟩

/-- Two numbers are brought to the common type of their types. -/
theorem widen_type (h : widen l r = .ok (l', r')) (hl : l'.type? = some s)
    (hr : r'.type? = some t) (hs : s.isNumeric = true) (ht : t.isNumeric = true) :
    ∃ s' t', l.type? = some s' ∧ r.type? = some t' ∧ commonType? s' t' = some s := by
  rcases widen_cases h with ⟨rfl, rfl, hsame⟩ | ⟨s', t', u, hs', ht', hu, hlu, -⟩
  · obtain rfl := hsame s t hl hr hs ht
    exact ⟨s, s, hl, hr, by simp [commonType?, s.widensTo_refl]⟩
  · have htype := convertNumeric?_type hlu
    rw [hl, Option.some.injEq] at htype
    exact ⟨s', t', hs', ht', htype ▸ hu⟩

theorem integer?_type (h : v.integer? = some n) : ∃ s, v.type? = some s ∧ s.isNumeric = true := by
  cases v <;> simp [integer?] at h <;> exact ⟨_, rfl, rfl⟩

theorem integerOperation_type {a b : Int} (h : integerOperation op t a b = .ok w) :
    w.type? = some t := by
  obtain ⟨n, -, h⟩ := bind_eq_ok_iff.mp h
  split at h
  · rename_i v hv
    cases h
    exact ofInteger?_type hv
  · cases h

/-- Arithmetic gives a number, of the type that its left number has after widening. -/
theorem arithmetic_widened (h : arithmetic op l r = .ok w) :
    ∃ l' r' s t, widen l r = .ok (l', r') ∧ l'.type? = some s ∧ r'.type? = some t ∧
      s.isNumeric = true ∧ t.isNumeric = true ∧ w.type? = some s := by
  unfold arithmetic at h
  obtain ⟨⟨l', r'⟩, hwiden, h⟩ := bind_eq_ok_iff.mp h
  dsimp only at h
  refine ⟨l', r', ?_⟩
  split at h
  · cases h
    exact ⟨_, _, hwiden, rfl, rfl, rfl, rfl, rfl⟩
  · cases h
    exact ⟨_, _, hwiden, rfl, rfl, rfl, rfl, rfl⟩
  · obtain ⟨d, -, h⟩ := bind_eq_ok_iff.mp h
    cases h
    exact ⟨_, _, hwiden, rfl, rfl, rfl, rfl, rfl⟩
  · split at h
    · rename_i ha hb hu
      obtain ⟨s, hs, hsnum⟩ := integer?_type ha
      obtain ⟨t, ht, htnum⟩ := integer?_type hb
      rw [hs, Option.some.injEq] at hu
      subst hu
      exact ⟨_, _, hwiden, hs, ht, hsnum, htnum, integerOperation_type h⟩
    · cases h

/-- Arithmetic that gives a value has two numbers with a common type, which is its own. -/
theorem arithmetic_type (h : arithmetic op l r = .ok w) :
    ∃ s t u, l.type? = some s ∧ r.type? = some t ∧ commonType? s t = some u ∧
      w.type? = some u := by
  obtain ⟨l', r', u, t, hwiden, hl', hr', hu, ht, hw⟩ := arithmetic_widened h
  obtain ⟨s', t', hs', ht', hcommon⟩ := widen_type hwiden hl' hr' hu ht
  exact ⟨s', t', u, hs', ht', hcommon, hw⟩

theorem compareSides_type (h : compareSides op l r = .ok w) : w.type? = some .boolean := by
  unfold compareSides at h
  split at h
  · cases h
    rfl
  · obtain ⟨⟨l', r'⟩, -, h⟩ := bind_eq_ok_iff.mp h
    dsimp only at h
    split at h
    · cases h
    · split at h
      · cases h
        rfl
      · cases h
        rfl
      · split at h
        · cases h
          rfl
        · cases h

theorem applyBinary_type_of_isComparison (hop : op.isComparison = true)
    (h : applyBinary op l r = .ok w) : w.type? = some .boolean := by
  unfold applyBinary at h
  rw [if_pos hop] at h
  exact compareSides_type h

/-- An operation that is no comparison has two values with a common type, which is its own. -/
theorem applyBinary_type (hop : op.isComparison = false) (h : applyBinary op l r = .ok w) :
    ∃ s t u, l.type? = some s ∧ r.type? = some t ∧ commonType? s t = some u ∧
      w.type? = some u := by
  unfold applyBinary at h
  rw [if_neg (by simp [hop])] at h
  split at h
  · cases h
    exact ⟨_, _, _, rfl, rfl, rfl, rfl⟩
  · exact arithmetic_type h

theorem negateInteger_type (h : negateInteger t n = .ok w) : w.type? = some t := by
  unfold negateInteger at h
  split at h
  · rename_i v hv
    cases h
    exact ofInteger?_type hv
  · cases h

theorem applyUnary_type {uop : UnaryOp} (h : applyUnary uop v = .ok w) :
    ∃ t, v.type? = some t ∧ w.type? = some t ∧ t ≠ .complex := by
  unfold applyUnary at h
  split at h
  · cases h
    exact ⟨_, rfl, rfl, by decide⟩
  · exact ⟨_, rfl, negateInteger_type h, by decide⟩
  · exact ⟨_, rfl, negateInteger_type h, by decide⟩
  · exact ⟨_, rfl, negateInteger_type h, by decide⟩
  · cases h
    exact ⟨_, rfl, rfl, by decide⟩
  · cases h
    exact ⟨_, rfl, rfl, by decide⟩
  · cases h
    exact ⟨_, rfl, rfl, by decide⟩
  · cases h

end Operations

end Value

section Logic

variable {op : BinaryOp} {l w : Value} {x : Except EvalError Value}

/-- A logical operator takes a truth value on its left side and gives one; every other operator
takes the values of both sides. -/
theorem BinaryOp.applyTo_cases (h : op.applyTo l x = .ok w) :
    ((op = .and ∨ op = .or) ∧ l.type? = some .boolean ∧ w.type? = some .boolean) ∨
      (¬(op = .and ∨ op = .or) ∧ ∃ r, x = .ok r ∧ Value.applyBinary op l r = .ok w) := by
  unfold applyTo at h
  by_cases hop : op = .and ∨ op = .or
  · rw [if_pos hop] at h
    obtain ⟨decided, hl, h⟩ := bind_eq_ok_iff.mp h
    have hleft : l.type? = some .boolean := by
      cases l <;> simp [Value.expectBoolean, Value.asBool?] at hl
      rfl
    refine Or.inl ⟨hop, hleft, ?_⟩
    split at h
    · cases h
      rfl
    · obtain ⟨r, -, h⟩ := bind_eq_ok_iff.mp h
      obtain ⟨right, -, h⟩ := bind_eq_ok_iff.mp h
      cases h
      rfl
  · rw [if_neg hop] at h
    obtain ⟨r, hr, h⟩ := bind_eq_ok_iff.mp h
    exact Or.inr ⟨hop, r, hr, h⟩

theorem BinaryOp.isBoolean_eq (op : BinaryOp) :
    op.isBoolean = (decide (op = .and ∨ op = .or) || op.isComparison) := by
  cases op <;> rfl

theorem BinaryOp.applyTo_type_of_isBoolean (hop : op.isBoolean = true)
    (h : op.applyTo l x = .ok w) : w.type? = some .boolean := by
  rcases applyTo_cases h with ⟨-, -, hw⟩ | ⟨hlogic, r, -, hr⟩
  · exact hw
  · have hcomparison : op.isComparison = true := by
      simpa [op.isBoolean_eq, hlogic] using hop
    exact Value.applyBinary_type_of_isComparison hcomparison hr

end Logic

section Methods

variable {m : StringMethod} {name text : String} {args : List Value} {v w : Value}

def StringMethod.resultType : StringMethod → EdmType
  | .startsWith | .endsWith | .contains => .boolean
  | .toLower | .toUpper | .trim => .string
  | .length | .indexOf => .int32

theorem StringMethod.countValue_type {n : Nat} (h : countValue n = .ok w) :
    w.type? = some .int32 := by
  unfold countValue at h
  split at h
  · cases h
    rfl
  · cases h

theorem StringMethod.apply_type (h : m.apply name text args = .ok w) :
    w.type? = some m.resultType := by
  cases m with
  | startsWith | endsWith | contains =>
    obtain ⟨s, -, h⟩ := bind_eq_ok_iff.mp h
    cases h
    rfl
  | toLower | toUpper | trim =>
    cases h
    rfl
  | length => exact countValue_type h
  | indexOf =>
    obtain ⟨s, -, h⟩ := bind_eq_ok_iff.mp h
    split at h
    · exact countValue_type h
    · cases h
      rfl

/-- Only strings have methods, and only those that are listed. -/
theorem Value.callMethod_cases (h : v.callMethod name args = .ok w) :
    ∃ text m, v = .string text ∧ StringMethod.ofName? name = some m ∧
      m.apply name text args = .ok w := by
  unfold callMethod at h
  split at h
  · rename_i text m hm
    exact ⟨text, m, rfl, hm, h⟩
  · cases h
  · cases h

/-- The name under which a method is called shows in its errors only. -/
theorem StringMethod.apply_rename (other : String) (h : m.apply name text args = .ok w) :
    m.apply other text args = .ok w := by
  have hargument : ∀ {s}, stringArgument name args = .ok s → stringArgument other args = .ok s := by
    intro s hs
    unfold stringArgument at hs ⊢
    split at hs
    · exact hs
    · cases hs
  cases m with
  | startsWith | endsWith | contains | indexOf =>
    obtain ⟨s, hs, h⟩ := bind_eq_ok_iff.mp h
    exact bind_eq_ok_iff.mpr ⟨s, hargument hs, h⟩
  | toLower | toUpper | trim | length => exact h

end Methods

end RowQuery
