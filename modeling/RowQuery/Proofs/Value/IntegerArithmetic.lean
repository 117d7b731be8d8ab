import RowQuery.Proofs.Value.Integers

/-!
Arithmetic on integers of all widths. An operation gives its exact result in
the wider of the two types, or it is refused because that type does not hold
the result. One remainder is refused that would fit: its quotient does not.
-/

namespace RowQuery

namespace EdmType

variable {s t : EdmType}

def widest (s t : EdmType) : EdmType :=
  if s.widensTo t then t else s

/-- Of two integer types one widens to the other. -/
theorem widensTo_or (hs : s.integerBounds?.isSome = true) (ht : t.integerBounds?.isSome = true) :
    s.widensTo t = true ∨ t.widensTo s = true := by
  cases s <;> simp [integerBounds?] at hs <;> cases t <;> simp [integerBounds?] at ht <;> decide

end EdmType

namespace BinaryOp

variable {op : BinaryOp} {a b : Int}

def DividesByZero (op : BinaryOp) (b : Int) : Prop :=
  (op = .div ∨ op = .mod) ∧ b = 0

/-- The remainder whose quotient is above the greatest integer of 64 bits. -/
def LosesQuotient (op : BinaryOp) (a b : Int) : Prop :=
  op = .mod ∧ a = -2 ^ 63 ∧ b = -1

theorem not_dividesByZero_of_losesQuotient (h : op.LosesQuotient a b) :
    ¬ op.DividesByZero b := by
  rintro ⟨-, hzero⟩
  have hone := h.2.2
  omega

end BinaryOp

/-- The quotient of two integers of 64 bits is one itself, with one exception. -/
theorem holdsInteger_tdiv_iff {a b : Int} (hlow : -2 ^ 63 ≤ a) (hhigh : a < 2 ^ 63) :
    EdmType.int64.holdsInteger (a.tdiv b) = true ↔ ¬(a = -2 ^ 63 ∧ b = -1) := by
  have hbounds : EdmType.int64.holdsInteger (a.tdiv b) = true ↔
      -2 ^ 63 ≤ a.tdiv b ∧ a.tdiv b ≤ 2 ^ 63 - 1 := by
    simp [EdmType.holdsInteger, EdmType.integerBounds?]
  rw [hbounds]
  by_cases hone : b = -1
  · subst hone
    rw [Int.tdiv_neg, Int.tdiv_one]
    omega
  · have hsize := Int.natAbs_tdiv a b
    have hle : a.natAbs.div b.natAbs ≤ a.natAbs := Nat.div_le_self _ _
    have hexact : b = 1 ∨ b = 0 ∨ 2 ≤ b.natAbs := by omega
    rcases hexact with rfl | rfl | htwo
    · rw [Int.tdiv_one]
      omega
    · rw [Int.tdiv_zero]
      omega
    · have hhalf : a.natAbs.div b.natAbs ≤ a.natAbs / 2 := Nat.div_le_div_left htwo (by decide)
      omega

namespace Value

variable {op : BinaryOp} {l r l' r' v : Value} {s t : EdmType} {a b n : Int}

section Widening

theorem convertNumeric?_eq_ofInteger? (h : v.integer? = some n)
    (ht : t.integerBounds?.isSome = true) : v.convertNumeric? t = ofInteger? n t := by
  rw [convertNumeric?_of_integer? h]
  cases t <;> simp [EdmType.integerBounds?] at ht <;> rfl

/-- Widening an integer keeps it. -/
theorem IsInteger.widened (h : v.IsInteger s n) (hst : s.widensTo t = true)
    (ht : t.integerBounds?.isSome = true) :
    ∃ w, v.convertNumeric? t = some w ∧ w.IsInteger t n := by
  obtain ⟨w, hw⟩ := ofInteger?_of_holdsInteger (EdmType.holdsInteger_mono h.holds hst ht)
  rw [convertNumeric?_eq_ofInteger? h.number_eq ht]
  exact ⟨w, hw, isInteger_of_ofInteger? hw⟩

/-- Integers are brought to the wider of their types with their numbers. -/
theorem widen_integers (hl : l.IsInteger s a) (hr : r.IsInteger t b) :
    ∃ l' r', widen l r = .ok (l', r') ∧ l'.IsInteger (s.widest t) a ∧
      r'.IsInteger (s.widest t) b := by
  by_cases hst : s = t
  · subst hst
    have hwidest : s.widest s = s := by simp [EdmType.widest]
    rw [hwidest]
    exact ⟨l, r, widen_same hl.type_eq hr.type_eq, hl, hr⟩
  by_cases hwidens : s.widensTo t = true
  · have hwidest : s.widest t = t := if_pos hwidens
    obtain ⟨l', hl', hinteger⟩ := hl.widened hwidens hr.isSome_integerBounds?
    have hwiden := widen_left hl.type_eq hr.type_eq hwidens hst hl'
    rw [hr.withOneNaN_eq] at hwiden
    rw [hwidest]
    exact ⟨l', r, hwiden, hinteger, hr⟩
  · have hwidest : s.widest t = s := if_neg hwidens
    have hback : t.widensTo s = true :=
      (EdmType.widensTo_or hl.isSome_integerBounds? hr.isSome_integerBounds?).resolve_left hwidens
    obtain ⟨r', hr', hinteger⟩ := hr.widened hback hl.isSome_integerBounds?
    have hwiden := widen_right hl.type_eq hr.type_eq hback (Ne.symm hst) hr'
    rw [hl.withOneNaN_eq] at hwiden
    rw [hwidest]
    exact ⟨l, r', hwiden, hl, hinteger⟩

end Widening

section Operations

theorem integerResult_of_dividesByZero (h : op.DividesByZero b) :
    integerResult op a b = .error .divisionByZero := by
  obtain ⟨rfl | rfl, rfl⟩ := h
  · rfl
  · rfl

theorem integerResult_of_losesQuotient (h : op.LosesQuotient a b) :
    integerResult op a b = .error (overflow op) := by
  obtain ⟨rfl, rfl, rfl⟩ := h
  rfl

/-- Within 64 bits, and apart from the two faults of division, the result is exact. -/
theorem integerResult_exact (hop : op.isArithmetic = true) (hlow : -2 ^ 63 ≤ a)
    (hhigh : a < 2 ^ 63) (hzero : ¬ op.DividesByZero b) (hquotient : ¬ op.LosesQuotient a b) :
    integerResult op a b = .ok (op.onIntegers a b) := by
  cases op with
  | add | sub | mul => rfl
  | div =>
    have hb : b ≠ 0 := fun hb => hzero ⟨Or.inl rfl, hb⟩
    exact if_neg hb
  | mod =>
    have hb : b ≠ 0 := fun hb => hzero ⟨Or.inr rfl, hb⟩
    have hholds : EdmType.int64.holdsInteger (a.tdiv b) = true :=
      (holdsInteger_tdiv_iff hlow hhigh).mpr fun hpair => hquotient ⟨rfl, hpair⟩
    simp only [integerResult, if_neg hb, hholds, if_true]
    rfl
  | _ => cases hop

/-- The operation that integers come to after they have been widened. -/
theorem arithmetic_integers (hl : l.IsInteger s a) (hr : r.IsInteger t b) :
    arithmetic op l r = integerOperation op (s.widest t) a b := by
  obtain ⟨l', r', hwiden, hl', hr'⟩ := widen_integers hl hr
  unfold arithmetic
  rw [hwiden]
  have ha := hl'.number_eq
  have hb := hr'.number_eq
  have ht := hl'.type_eq
  cases l' <;> simp [integer?] at ha <;> cases r' <;> simp [integer?] at hb <;>
    simp only [bind, Except.bind, integer?, ht, ha, hb]

/-- A result is of the type of the operation, if it has room there. -/
theorem integerOperation_of_result (h : integerResult op a b = .ok n) :
    integerOperation op t a b =
      match ofInteger? n t with
      | some v => .ok v
      | none => .error (overflow op) := by
  rw [integerOperation, h]
  rfl

/-- Every operation on integers ends in one of four ways. -/
theorem integerOperation_cases (hop : op.isArithmetic = true) (hlow : -2 ^ 63 ≤ a)
    (hhigh : a < 2 ^ 63) :
    (op.DividesByZero b ∧ integerOperation op t a b = .error .divisionByZero) ∨
      (op.LosesQuotient a b ∧ integerOperation op t a b = .error (overflow op)) ∨
      (¬ op.DividesByZero b ∧ ¬ op.LosesQuotient a b ∧
        t.holdsInteger (op.onIntegers a b) = true ∧
        ∃ v, integerOperation op t a b = .ok v ∧ v.IsInteger t (op.onIntegers a b)) ∨
      (¬ op.DividesByZero b ∧ ¬ op.LosesQuotient a b ∧
        t.holdsInteger (op.onIntegers a b) = false ∧
        integerOperation op t a b = .error (overflow op)) := by
  by_cases hzero : op.DividesByZero b
  · have h := integerResult_of_dividesByZero (a := a) hzero
    exact Or.inl ⟨hzero, by rw [integerOperation, h]; rfl⟩
  by_cases hquotient : op.LosesQuotient a b
  · have h := integerResult_of_losesQuotient hquotient
    exact Or.inr (Or.inl ⟨hquotient, by rw [integerOperation, h]; rfl⟩)
  have h := integerResult_exact hop hlow hhigh hzero hquotient
  refine Or.inr (Or.inr ?_)
  rw [integerOperation_of_result h]
  cases hv : ofInteger? (op.onIntegers a b) t with
  | some v =>
    have hinteger := isInteger_of_ofInteger? hv
    exact Or.inl ⟨hzero, hquotient, hinteger.holds, v, rfl, hinteger⟩
  | none =>
    exact Or.inr ⟨hzero, hquotient, ofInteger?_eq_none_iff.mp hv, rfl⟩

/-- Negation fails exactly where the type has no room for the negated integer. -/
theorem negateInteger_cases :
    (t.holdsInteger (-n) = true ∧ ∃ v, negateInteger t n = .ok v ∧ v.IsInteger t (-n)) ∨
      (t.holdsInteger (-n) = false ∧
        negateInteger t n = .error (.type (.overflow UnaryOp.negate.keyword))) := by
  unfold negateInteger
  cases hv : ofInteger? (-n) t with
  | some v =>
    have hinteger := isInteger_of_ofInteger? hv
    exact Or.inl ⟨hinteger.holds, v, rfl, hinteger⟩
  | none => exact Or.inr ⟨ofInteger?_eq_none_iff.mp hv, rfl⟩

/-- Bytes have no opposites; the other integers are negated within their types. -/
theorem applyUnary_negate_integer (h : v.IsInteger t n) (hbyte : t ≠ .byte) :
    applyUnary .negate v = negateInteger t n := by
  obtain ⟨htype, hnumber⟩ := h
  cases v <;> simp [integer?] at hnumber <;> cases htype
  · exact absurd rfl hbyte
  all_goals
    subst hnumber
    rfl

/-- Arithmetic on integers happens in the wider type of the two. -/
theorem applyBinary_eq_integerOperation (hop : op.isArithmetic = true) (hl : l.IsInteger s a)
    (hr : r.IsInteger t b) :
    applyBinary op l r = integerOperation op (s.widest t) a b := by
  have hcomparison : op.isComparison = false := by
    cases op <;> simp [BinaryOp.isArithmetic, BinaryOp.rank] at hop <;> rfl
  obtain ⟨s', hs', hnumeric⟩ := integer?_type hl.number_eq
  rw [applyBinary_of_isNumeric op hs' hnumeric, hcomparison]
  exact arithmetic_integers hl hr

/-- An operation on two integers divides by zero, gives the exact result in the wider type or is
refused as an overflow. It is refused exactly if that type does not hold the result, save for the
remainder whose quotient is lost. Opposites are exact or refused likewise. -/
theorem applyBinary_integers_iff (op : BinaryOp) (l r : Value) (s t : EdmType) (a b : Int)
    (hop : op.isArithmetic = true) (hl : l.IsInteger s a) (hr : r.IsInteger t b) :
    (applyBinary op l r = .error .divisionByZero ↔ op.DividesByZero b) ∧
      ((∃ v, applyBinary op l r = .ok v ∧ v.IsInteger (s.widest t) (op.onIntegers a b)) ↔
        ¬ op.DividesByZero b ∧ ¬ op.LosesQuotient a b ∧
          (s.widest t).holdsInteger (op.onIntegers a b) = true) ∧
      (applyBinary op l r = .error (overflow op) ↔
        ¬ op.DividesByZero b ∧
          (op.LosesQuotient a b ∨ (s.widest t).holdsInteger (op.onIntegers a b) = false)) ∧
      (s ≠ .byte →
        ((∃ v, applyUnary .negate l = .ok v ∧ v.IsInteger s (-a)) ↔
            s.holdsInteger (-a) = true) ∧
          (applyUnary .negate l = .error (.type (.overflow UnaryOp.negate.keyword)) ↔
            s.holdsInteger (-a) = false)) := by
  have hnegated (hbyte : s ≠ .byte) :
      ((∃ v, applyUnary .negate l = .ok v ∧ v.IsInteger s (-a)) ↔ s.holdsInteger (-a) = true) ∧
        (applyUnary .negate l = .error (.type (.overflow UnaryOp.negate.keyword)) ↔
          s.holdsInteger (-a) = false) := by
    rw [applyUnary_negate_integer hl hbyte]
    rcases negateInteger_cases (t := s) (n := a) with ⟨hholds, v, hv, hinteger⟩ | ⟨hholds, herror⟩
    · simp [hv, hinteger, hholds]
    · simp [herror, hholds]
  rw [applyBinary_eq_integerOperation hop hl hr]
  obtain ⟨hlow, hhigh⟩ := hl.bounds
  rcases integerOperation_cases (b := b) (t := s.widest t) hop hlow hhigh with
    ⟨hzero, h⟩ | ⟨hquotient, h⟩ | ⟨hzero, hquotient, hholds, v, h, hinteger⟩ |
      ⟨hzero, hquotient, hholds, h⟩
  · simp only [h, hzero]
    exact ⟨by simp, by simp, by simp [overflow], hnegated⟩
  · have hzero := BinaryOp.not_dividesByZero_of_losesQuotient hquotient
    simp only [h, hzero, hquotient]
    exact ⟨by simp [overflow], by simp, by simp, hnegated⟩
  · simp only [h, hzero, hquotient, hholds]
    exact ⟨by simp, by simp [hinteger], by simp, hnegated⟩
  · simp only [h, hzero, hquotient, hholds]
    exact ⟨by simp [overflow], by simp, by simp, hnegated⟩

/-- The weight of three hundred boxes of a hundred each still fits, and so does its debit. -/
theorem applyBinary_integers_iff_boxes :
    (Value.int16 300).IsInteger .int16 300 ∧ (Value.byte 100).IsInteger .byte 100 ∧
      (∃ v, applyBinary .mul (.int16 300) (.byte 100) = .ok v ∧ v.IsInteger .int16 30000) ∧
      (∃ v, applyUnary .negate (.int16 300) = .ok v ∧ v.IsInteger .int16 (-300)) := by
  have hboxes : (Value.int16 300).IsInteger .int16 300 := ⟨rfl, rfl⟩
  have hweight : (Value.byte 100).IsInteger .byte 100 := ⟨rfl, rfl⟩
  obtain ⟨-, hproduct, -, hopposite⟩ :=
    applyBinary_integers_iff .mul _ _ _ _ _ _ rfl hboxes hweight
  refine ⟨hboxes, hweight, hproduct.mpr ⟨?_, ?_, rfl⟩, (hopposite (by decide)).1.mpr rfl⟩
  · simp [BinaryOp.DividesByZero]
  · simp [BinaryOp.LosesQuotient]

/-- The least integer of 64 bits leaves no remainder for minus one, as that of 32 bits does, but
the remainder is refused. -/
theorem remainder_leastInt64 :
    EdmType.int64.holdsInteger (BinaryOp.mod.onIntegers (-2 ^ 63) (-1)) = true ∧
      applyBinary .mod (.int64 Int64.minValue) (.int64 (-1)) = .error (overflow .mod) ∧
      applyBinary .mod (.int32 Int32.minValue) (.int32 (-1)) = .ok (.int32 0) :=
  ⟨rfl, rfl, rfl⟩

end Operations

end Value

end RowQuery
