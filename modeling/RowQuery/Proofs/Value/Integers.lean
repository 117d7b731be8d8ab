import RowQuery.Proofs.Value.Widening

/-!
Integers as values of their types: a number is a value of a type in at most one
way, and of those types that hold it. Arithmetic on integers of 64 bits, where
it gives a value, has integers as its operands and gives their exact result.
-/

namespace RowQuery

def BinaryOp.onIntegers (op : BinaryOp) (a b : Int) : Int :=
  match op with
  | .add => a + b
  | .sub => a - b
  | .mul => a * b
  | .div => a.tdiv b
  | .mod => a.tmod b
  | _ => 0

variable {op : BinaryOp} {l r v : Value} {t : EdmType} {n : Int} {nullable : Bool}

theorem ColumnType.accepts_int64_iff :
    (ColumnType.of (.primitive .int64) nullable).accepts v = true ↔
      (v = .null ∧ nullable = true) ∨ ∃ n, v = .int64 n := by
  cases v <;> simp [ColumnType.accepts, ColumnType.isNullable, Value.type?]

namespace Value

/-- A value of an integer type with the number that it stands for. -/
structure IsInteger (v : Value) (t : EdmType) (n : Int) : Prop where
  type_eq : v.type? = some t
  number_eq : v.integer? = some n

section Numbers

theorem IsInteger.holds (h : v.IsInteger t n) : t.holdsInteger n = true :=
  integer?_holdsInteger h.number_eq h.type_eq

theorem IsInteger.bounds (h : v.IsInteger t n) : -2 ^ 63 ≤ n ∧ n < 2 ^ 63 := by
  have hholds := h.holds
  cases t <;> simp [EdmType.holdsInteger, EdmType.integerBounds?] at hholds <;> omega

theorem IsInteger.isSome_integerBounds? (h : v.IsInteger t n) :
    t.integerBounds?.isSome = true := by
  have hholds := h.holds
  unfold EdmType.holdsInteger at hholds
  cases hbounds : t.integerBounds? <;> simp [hbounds] at hholds ⊢

theorem IsInteger.withOneNaN_eq (h : v.IsInteger t n) : v.withOneNaN = v := by
  have hnumber := h.number_eq
  cases v <;> simp [integer?] at hnumber <;> rfl

theorem IsInteger.exists_int64 (h : v.IsInteger .int64 n) :
    ∃ m, v = .int64 m ∧ m.toInt = n := by
  obtain ⟨htype, hnumber⟩ := h
  cases v with
  | int64 m => exact ⟨m, rfl, Option.some.inj hnumber⟩
  | _ => cases htype

theorem isInteger_of_ofInteger? (h : ofInteger? n t = some v) : v.IsInteger t n := by
  refine ⟨ofInteger?_type h, ?_⟩
  unfold ofInteger? at h
  split at h
  · rename_i hholds
    cases t <;> simp only [EdmType.holdsInteger, EdmType.integerBounds?, Bool.and_eq_true,
      decide_eq_true_eq] at hholds <;> cases h
    · have hbyte : (UInt8.ofNat n.toNat).toNat = n.toNat := by
        rw [UInt8.toNat_ofNat']
        omega
      simp only [integer?, hbyte, Option.some.injEq]
      omega
    · exact congrArg some (Int16.toInt_ofInt_of_le hholds.1 (by omega))
    · exact congrArg some (Int32.toInt_ofInt_of_le hholds.1 (by omega))
    · exact congrArg some (Int64.toInt_ofInt_of_le hholds.1 (by omega))
  · cases h

/-- A number is a value of an integer type in one way. -/
theorem ofInteger?_eq_some_iff : ofInteger? n t = some v ↔ v.IsInteger t n :=
  ⟨isInteger_of_ofInteger?, fun h => ofInteger?_integer? h.number_eq h.type_eq⟩

theorem ofInteger?_eq_none_iff : ofInteger? n t = none ↔ t.holdsInteger n = false := by
  cases hholds : t.holdsInteger n with
  | true =>
    obtain ⟨v, hv⟩ := ofInteger?_of_holdsInteger hholds
    simp [hv]
  | false => simp [ofInteger?, hholds]

/-- The integers of a type are those within its bounds. -/
theorem exists_isInteger_iff : (∃ v, IsInteger v t n) ↔ t.holdsInteger n = true := by
  constructor
  · rintro ⟨v, hv⟩
    exact hv.holds
  · intro hholds
    obtain ⟨v, hv⟩ := ofInteger?_of_holdsInteger hholds
    exact ⟨v, isInteger_of_ofInteger? hv⟩

end Numbers

section Results

/-- Null or an integer of 64 bits. -/
def IsInt64 (v : Value) : Prop :=
  v = .null ∨ ∃ n, v = .int64 n

theorem isInt64_of_number {k : Int} {p : Prop}
    (h : (v = .null ∧ p) ∨ ∃ n, v = .int64 n ∧ n.toInt = k) : v.IsInt64 := by
  rcases h with ⟨hnull, -⟩ | ⟨n, hn, -⟩
  · exact Or.inl hnull
  · exact Or.inr ⟨n, hn⟩

/-- A result that is not refused is exact. -/
theorem integerResult_eq {a b k : Int} (hop : op.isArithmetic = true)
    (h : integerResult op a b = .ok k) : k = op.onIntegers a b := by
  cases op with
  | add | sub | mul =>
    cases h
    rfl
  | div =>
    simp only [integerResult] at h
    split at h <;> cases h
    rfl
  | mod =>
    simp only [integerResult] at h
    split at h
    · cases h
    · split at h <;> cases h
      rfl
  | _ => cases hop

theorem integerOperation_int64_ok {a b : Int} (hop : op.isArithmetic = true)
    (h : integerOperation op .int64 a b = .ok v) :
    ∃ n, v = .int64 n ∧ n.toInt = op.onIntegers a b := by
  obtain ⟨k, hk, h⟩ := bind_eq_ok_iff.mp h
  have hresult : k = op.onIntegers a b := integerResult_eq hop hk
  split at h
  · rename_i w hw
    cases h
    obtain ⟨n, hn, hnumber⟩ := (isInteger_of_ofInteger? hw).exists_int64
    exact ⟨n, hn, hnumber.trans hresult⟩
  · cases h

/-- Arithmetic that gives a value has two integers and gives their exact result. -/
theorem applyBinary_int64 (hop : op.isArithmetic = true) (hl : l.IsInt64) (hr : r.IsInt64)
    (h : applyBinary op l r = .ok v) :
    ∃ a b n, l = .int64 a ∧ r = .int64 b ∧ v = .int64 n ∧
      n.toInt = op.onIntegers a.toInt b.toInt := by
  have hcomparison : op.isComparison = false := by
    cases op <;> simp [BinaryOp.isArithmetic, BinaryOp.rank] at hop <;> rfl
  obtain ⟨s, t, -, hs, ht, -⟩ := applyBinary_type hcomparison h
  rcases hl with rfl | ⟨a, rfl⟩
  · cases hs
  rcases hr with rfl | ⟨b, rfl⟩
  · cases ht
  rw [applyBinary_of_isNumeric op rfl rfl, hcomparison] at h
  obtain ⟨n, hn, hnumber⟩ := integerOperation_int64_ok hop h
  exact ⟨a, b, n, rfl, rfl, hn, hnumber⟩

end Results

end Value

end RowQuery
