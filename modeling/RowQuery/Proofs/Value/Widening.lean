import RowQuery.Proofs.Floating.Exactness
import RowQuery.Proofs.Value.Types

/-!
Widening ahead of an operation. An operand that is converted to the wider type
of the other one gives the operation the result that it has without: integers
keep their number on the way, and no operation tells two single values apart
that are no numbers.
-/

namespace RowQuery

namespace EdmType

/-- A wider type has room for whatever the narrower one has. -/
theorem holdsInteger_mono {s t : EdmType} {n : Int} (h : s.holdsInteger n = true)
    (hst : s.widensTo t = true) (ht : t.integerBounds?.isSome = true) :
    t.holdsInteger n = true := by
  cases s <;> simp [holdsInteger, integerBounds?] at h <;>
    cases t <;> simp [widensTo, wider] at hst <;> simp [integerBounds?] at ht <;>
    simp [holdsInteger, integerBounds?] <;> omega

end EdmType

namespace Value

variable {v w l r : Value} {s t : EdmType} {n : Int} (op : BinaryOp)

section Integers

theorem integer?_holdsInteger (h : v.integer? = some n) (hv : v.type? = some s) :
    s.holdsInteger n = true := by
  cases v with
  | byte b =>
    cases h
    cases hv
    have hlt := b.toNat_lt
    simp [EdmType.holdsInteger, EdmType.integerBounds?]
    omega
  | int16 m =>
    cases h
    cases hv
    have hle := m.le_toInt
    have hlt := m.toInt_lt
    simp [EdmType.holdsInteger, EdmType.integerBounds?]
    omega
  | int32 m =>
    cases h
    cases hv
    have hle := m.le_toInt
    have hlt := m.toInt_lt
    simp [EdmType.holdsInteger, EdmType.integerBounds?]
    omega
  | int64 m =>
    cases h
    cases hv
    have hle := m.le_toInt
    have hlt := m.toInt_lt
    simp [EdmType.holdsInteger, EdmType.integerBounds?]
    omega
  | _ => simp [integer?] at h

/-- An integer is read back from its type. -/
theorem ofInteger?_integer? (h : v.integer? = some n) (hv : v.type? = some s) :
    ofInteger? n s = some v := by
  have hholds := integer?_holdsInteger h hv
  unfold ofInteger?
  rw [if_pos hholds]
  cases v with
  | byte b =>
    cases h
    cases hv
    simp
  | int16 m | int32 m | int64 m =>
    cases h
    cases hv
    simp
  | _ => simp [integer?] at h

theorem ofInteger?_of_holdsInteger (h : t.holdsInteger n = true) :
    ∃ w, ofInteger? n t = some w := by
  unfold ofInteger?
  rw [if_pos h]
  cases t <;> simp [EdmType.holdsInteger, EdmType.integerBounds?] at h ⊢

/-- An integer has a value of every type to which its own one widens. -/
theorem convertInteger?_of_widensTo (h : s.holdsInteger n = true) (hst : s.widensTo t = true)
    (ht : t.isNumeric = true) : ∃ w, convertInteger? n t = some w := by
  by_cases hinteger : t.integerBounds?.isSome = true
  · have hholds := EdmType.holdsInteger_mono h hst hinteger
    obtain ⟨w, hw⟩ := ofInteger?_of_holdsInteger hholds
    refine ⟨w, ?_⟩
    cases t <;> simp [EdmType.integerBounds?] at hinteger <;> exact hw
  · cases t <;> simp [EdmType.integerBounds?, EdmType.isNumeric] at hinteger ht <;>
      exact ⟨_, rfl⟩

end Integers

theorem numeric_cases (h : v.type? = some s) (hs : s.isNumeric = true) :
    (∃ n, v.integer? = some n) ∨ (∃ x, v = .single x) ∨ (∃ x, v = .double x) ∨
      ∃ d, v = .decimal d := by
  cases v with
  | byte | int16 | int32 | int64 => exact Or.inl ⟨_, rfl⟩
  | single x => exact Or.inr (Or.inl ⟨x, rfl⟩)
  | double x => exact Or.inr (Or.inr (Or.inl ⟨x, rfl⟩))
  | decimal d => exact Or.inr (Or.inr (Or.inr ⟨d, rfl⟩))
  | _ => cases h <;> simp [EdmType.isNumeric] at hs

theorem convertNumeric?_of_integer? (h : v.integer? = some n) :
    v.convertNumeric? t = convertInteger? n t := by
  cases v with
  | byte | int16 | int32 | int64 =>
    cases h
    rfl
  | _ => simp [integer?] at h

/-- A number converts to every type to which its own one widens. Decimals and binary numbers do not
widen to each other. -/
theorem convertNumeric?_of_widensTo (hv : v.type? = some s) (hst : s.widensTo t = true)
    (hne : s ≠ t) : ∃ w, v.convertNumeric? t = some w := by
  obtain ⟨hs, ht, -⟩ := EdmType.isNumeric_of_widensTo hst hne
  rcases numeric_cases hv hs with ⟨n, hn⟩ | ⟨x, rfl⟩ | ⟨x, rfl⟩ | ⟨d, rfl⟩
  · rw [convertNumeric?_of_integer? hn]
    exact convertInteger?_of_widensTo (integer?_holdsInteger hn hv) hst ht
  · cases hv
    have hdouble : t = .double := by
      simpa [EdmType.widensTo, EdmType.wider, hne] using hst
    subst hdouble
    exact ⟨_, rfl⟩
  · cases hv
    simp [EdmType.widensTo, EdmType.wider, hne] at hst
  · cases hv
    simp [EdmType.widensTo, EdmType.wider, hne] at hst

/-- The value with the one single value that results use for what is no number. -/
def withOneNaN : Value → Value
  | .single x => .single (if x.isNaN then .nan else x)
  | v => v

@[simp] theorem withOneNaN_type : v.withOneNaN.type? = v.type? := by
  cases v <;> rfl

/-- A conversion of a number to its own type. -/
theorem convertNumeric?_self (hv : v.type? = some t) (ht : t.isNumeric = true) :
    v.convertNumeric? t = some v.withOneNaN := by
  cases v with
  | single x =>
    cases hv
    have hback := x.convert_double_single
    simp only [convertNumeric?, convertDouble?, hback, withOneNaN]
  | double x =>
    cases hv
    rfl
  | decimal d =>
    cases hv
    rfl
  | byte | int16 | int32 | int64 =>
    cases hv
    exact ofInteger?_integer? rfl rfl
  | _ => cases hv <;> simp [EdmType.isNumeric] at ht

section Operations

theorem widen_same (hl : l.type? = some t) (hr : r.type? = some t) : widen l r = .ok (l, r) := by
  simp [widen, hl, hr]

theorem widen_left (hl : l.type? = some s) (hr : r.type? = some t) (hst : s.widensTo t = true)
    (hne : s ≠ t) (hw : l.convertNumeric? t = some w) : widen l r = .ok (w, r.withOneNaN) := by
  obtain ⟨hs, ht, -⟩ := EdmType.isNumeric_of_widensTo hst hne
  have hcommon := EdmType.commonType?_of_widensTo hst
  have hself := convertNumeric?_self hr ht
  simp [widen, hl, hr, hne, hs, ht, hcommon, widenTo, hw, hself]
  rfl

theorem widen_right (hl : l.type? = some s) (hr : r.type? = some t) (hst : t.widensTo s = true)
    (hne : t ≠ s) (hw : r.convertNumeric? s = some w) : widen l r = .ok (l.withOneNaN, w) := by
  obtain ⟨ht, hs, -⟩ := EdmType.isNumeric_of_widensTo hst hne
  have hcommon := EdmType.commonType?_comm hst hne
  have hself := convertNumeric?_self hl hs
  simp [widen, hl, hr, hne.symm, hs, ht, hcommon, widenTo, hw, hself]
  rfl

theorem applyBinary_of_isNumeric (hl : l.type? = some s) (hs : s.isNumeric = true) :
    applyBinary op l r = if op.isComparison then compareSides op l r else arithmetic op l r := by
  unfold applyBinary
  by_cases hop : op.isComparison = true
  · rw [if_pos hop, if_pos hop]
  · rw [if_neg hop, if_neg hop]
    split
    · cases hl
      simp [EdmType.isNumeric] at hs
    · rfl

/-- An operation on numbers sees them as they are after widening only. -/
theorem applyBinary_of_widen {s' t' : EdmType} {l' r' : Value} (hl : l.type? = some s)
    (hr : r.type? = some t) (hs : s.isNumeric = true) (hl' : l'.type? = some s')
    (hr' : r'.type? = some t') (hs' : s'.isNumeric = true) (h : widen l r = widen l' r') :
    applyBinary op l r = applyBinary op l' r' := by
  have hcompare : compareSides op l r = compareSides op l' r' := by
    unfold compareSides
    rw [isNull_of_type hl, isNull_of_type hr, isNull_of_type hl', isNull_of_type hr', h]
    rfl
  have harithmetic : arithmetic op l r = arithmetic op l' r' := by
    unfold arithmetic
    rw [h]
  rw [applyBinary_of_isNumeric op hl hs, applyBinary_of_isNumeric op hl' hs', hcompare, harithmetic]

theorem compareSides_single (x y : Single) :
    compareSides op (.single x) (.single y) =
      .ok (.boolean
        (match op with
          | .eq => x.equals y
          | .ne => !x.equals y
          | _ => ordered op (x.compare? y))) := by
  have hequals : (single x).equals (single y) = x.equals y := by rw [Value.equals]
  rw [← hequals]
  cases op <;> rfl

/-- Single values are compared as they are and computed with as double ones. -/
theorem applyBinary_single {x y x' y' : Single} (hcompare : x.compare? y = x'.compare? y')
    (hx : x.convert .double = x'.convert .double) (hy : y.convert .double = y'.convert .double) :
    applyBinary op (.single x) (.single y) = applyBinary op (.single x') (.single y') := by
  have hequals : x.equals y = x'.equals y' := by
    unfold Floating.equals
    rw [hcompare]
  have harithmetic : arithmetic op (.single x) (.single y) =
      arithmetic op (.single x') (.single y') := by
    change Except.ok (Value.single ((doubleResult op (x.convert .double)
      (y.convert .double)).convert .single)) = _
    rw [hx, hy]
    rfl
  rw [applyBinary_of_isNumeric op rfl rfl, applyBinary_of_isNumeric op rfl rfl,
    compareSides_single, compareSides_single, hcompare, hequals, harithmetic]

/-- Operators do not tell one NaN from another. -/
theorem applyBinary_withOneNaN_right (hl : l.type? = some t) (hr : r.type? = some t) :
    applyBinary op l r.withOneNaN = applyBinary op l r := by
  cases r with
  | single y =>
    cases hr
    cases l with
    | single x =>
      by_cases hy : y.isNaN = true
      · have hnan : (Floating.nan : Single).isNaN = true := rfl
        apply applyBinary_single
        · simp [Floating.compare?, hy, hnan]
        · rfl
        · simp [Floating.convert, hy, hnan]
      · simp [withOneNaN, hy]
    | _ => cases hl
  | _ => rfl

theorem applyBinary_withOneNaN_left (hl : l.type? = some t) (hr : r.type? = some t) :
    applyBinary op l.withOneNaN r = applyBinary op l r := by
  cases l with
  | single x =>
    cases hl
    cases r with
    | single y =>
      by_cases hx : x.isNaN = true
      · have hnan : (Floating.nan : Single).isNaN = true := rfl
        apply applyBinary_single
        · simp [Floating.compare?, hx, hnan]
        · simp [Floating.convert, hx, hnan]
        · rfl
      · simp [withOneNaN, hx]
    | _ => cases hr
  | _ => rfl

/-- An operation does not see whether its narrower left side was widened before. -/
theorem applyBinary_widen_left (hl : l.type? = some s) (hr : r.type? = some t)
    (hst : s.widensTo t = true) (hne : s ≠ t) (hw : l.convertNumeric? t = some w) :
    applyBinary op w r = applyBinary op l r := by
  obtain ⟨hs, ht, -⟩ := EdmType.isNumeric_of_widensTo hst hne
  have hwt := convertNumeric?_type hw
  have hrt : r.withOneNaN.type? = some t := by rw [withOneNaN_type, hr]
  have hwiden := widen_left hl hr hst hne hw
  rw [← applyBinary_withOneNaN_right op hwt hr]
  apply applyBinary_of_widen op hwt hrt ht hl hr hs
  rw [hwiden, widen_same hwt hrt]

/-- Widening the narrower side beforehand changes no result. -/
theorem applyBinary_widen_right (hl : l.type? = some s) (hr : r.type? = some t)
    (hst : t.widensTo s = true) (hne : t ≠ s) (hw : r.convertNumeric? s = some w) :
    applyBinary op l w = applyBinary op l r := by
  obtain ⟨ht, hs, -⟩ := EdmType.isNumeric_of_widensTo hst hne
  have hwt := convertNumeric?_type hw
  have hlt : l.withOneNaN.type? = some s := by rw [withOneNaN_type, hl]
  have hwiden := widen_right hl hr hst hne hw
  rw [← applyBinary_withOneNaN_left op hl hwt]
  apply applyBinary_of_widen op hlt hwt hs hl hr hs
  rw [hwiden, widen_same hlt hwt]

end Operations

section Conversions

theorem convertTo_of_convertNumeric? {nullable : Bool}
    (hv : (ColumnType.of (.primitive t) nullable).accepts v = false) (ht : t.isNumeric = true)
    (hw : v.convertNumeric? t = some w) :
    v.convertTo (.of (.primitive t) nullable) = .ok w := by
  simp [convertTo, hv, ht, hw]

theorem accepts_of_ne {nullable : Bool} (hv : v.type? = some s) (hne : s ≠ t) :
    (ColumnType.of (.primitive t) nullable).accepts v = false := by
  have hnull := isNull_of_type hv
  simp [accepts_primitive hnull, hv, hne]

/-- A conversion to a type that does not take null gives what it gives with null allowed. -/
theorem convertTo_nullable {c : ColumnType} (hc : c.edmType.isPrimitive = true)
    (h : v.convertTo c = .ok w) : v.convertTo (.of (.primitive c.edmType) true) = .ok w := by
  cases c with
  | any => simp [ColumnType.edmType, EdmType.isPrimitive] at hc
  | of kind nullable =>
    cases kind with
    | primitive t =>
      by_cases hv : v.isNull = true
      · cases v <;> simp [isNull] at hv
        rcases convertTo_cases h with ⟨-, rfl⟩ | ⟨-, -, hw⟩
        · rfl
        · simp [convertNumeric?, integer?] at hw
      · simp only [Bool.not_eq_true] at hv
        have haccepts : (ColumnType.of (.primitive t) true).accepts v =
            (ColumnType.of (.primitive t) nullable).accepts v := by
          rw [accepts_primitive hv, accepts_primitive hv]
        rcases convertTo_cases h with ⟨hkept, rfl⟩ | ⟨hnumeric, hconverted, hw⟩
        · exact if_pos (haccepts.trans hkept)
        · exact convertTo_of_convertNumeric? (haccepts.trans hconverted) hnumeric hw
    | row | list => simp [ColumnType.edmType, EdmType.isPrimitive] at hc

/-- An operation that takes null, which a comparison does, asks no more of values than whether they
are null. -/
theorem applyBinary_null {l' r' : Value} (hnull : (l.isNull || r.isNull) = true)
    (hl : l'.isNull = l.isNull) (hr : r'.isNull = r.isNull) (h : applyBinary op l r = .ok v) :
    applyBinary op l' r' = .ok v := by
  by_cases hop : op.isComparison = true
  · rw [← h]
    unfold applyBinary compareSides compareNulls
    rw [hl, hr, if_pos hop, if_pos hop, if_pos hnull, if_pos hnull]
  · simp only [Bool.not_eq_true] at hop
    obtain ⟨s, t, -, hs, ht, -⟩ := applyBinary_type hop h
    rw [isNull_of_type hs, isNull_of_type ht] at hnull
    cases hnull

/-- An operation that gives a value also gives it after the conversion of its narrower left side. -/
theorem applyBinary_converted_left (hst : s.widensTo t = true) (hne : s ≠ t)
    (hl : l.isNull = true ∨ l.type? = some s) (hr : r.isNull = true ∨ r.type? = some t)
    (h : applyBinary op l r = .ok v) :
    ∃ w, l.convertTo (.of (.primitive t) true) = .ok w ∧ applyBinary op w r = .ok v := by
  have ht := (EdmType.isNumeric_of_widensTo hst hne).2.1
  rcases hl with hnull | hl
  · cases l <;> simp [isNull] at hnull
    exact ⟨.null, rfl, h⟩
  · obtain ⟨w, hw⟩ := convertNumeric?_of_widensTo hl hst hne
    refine ⟨w, convertTo_of_convertNumeric? (accepts_of_ne hl hne) ht hw, ?_⟩
    rcases hr with hnull | hr
    · have hwnull := isNull_of_type (convertNumeric?_type hw)
      have hlnull := isNull_of_type hl
      exact applyBinary_null op (by simp [hnull]) (hwnull.trans hlnull.symm) rfl h
    · rw [applyBinary_widen_left op hl hr hst hne hw]
      exact h

/-- A conversion of the narrower side to the type of the other one changes no result. -/
theorem applyBinary_converted_right (hst : t.widensTo s = true) (hne : t ≠ s)
    (hl : l.isNull = true ∨ l.type? = some s) (hr : r.isNull = true ∨ r.type? = some t)
    (h : applyBinary op l r = .ok v) :
    ∃ w, r.convertTo (.of (.primitive s) true) = .ok w ∧ applyBinary op l w = .ok v := by
  have hs := (EdmType.isNumeric_of_widensTo hst hne).2.1
  rcases hr with hnull | hr
  · cases r <;> simp [isNull] at hnull
    exact ⟨.null, rfl, h⟩
  · obtain ⟨w, hw⟩ := convertNumeric?_of_widensTo hr hst hne
    refine ⟨w, convertTo_of_convertNumeric? (accepts_of_ne hr hne) hs hw, ?_⟩
    rcases hl with hnull | hl
    · have hwnull := isNull_of_type (convertNumeric?_type hw)
      have hrnull := isNull_of_type hr
      exact applyBinary_null op (by simp [hnull]) rfl (hwnull.trans hrnull.symm) h
    · rw [applyBinary_widen_right op hl hr hst hne hw]
      exact h

end Conversions

end Value

end RowQuery
