import RowQuery.Proofs.Value.IntegerArithmetic
import RowQuery.Proofs.Value.Number

/-!
Conversions to integer types. Every number is cut off towards zero, and it is
refused if the type does not hold what is left. Binary numbers at the upper
limit of the widest type are taken for the integer below the limit instead.
-/

namespace RowQuery.Value

variable {v w : Value} {s t : EdmType} {n : Int} {q : ℚ} {x : Double}

/-- A binary number whose whole part is the first integer above those of 64 bits. -/
def IsUpperLimit (v : Value) (t : EdmType) (q : ℚ) : Prop :=
  t = .int64 ∧ (v.type? = some .single ∨ v.type? = some .double) ∧ truncated q = 2 ^ 63

/-- The value of an integer type that a finite number leads to. -/
def CutsOffTo (v : Value) (t : EdmType) (w : Value) : Prop :=
  ∃ q, v.number? = some q ∧
    (w.IsInteger t (truncated q) ∨ v.IsUpperLimit t q ∧ w.IsInteger t (2 ^ 63 - 1))

section WholeParts

theorem wholePart?_of_bounds (hx : x.number? = some q) (hlow : -2 ^ 63 ≤ truncated q)
    (hhigh : truncated q < 2 ^ 63) : wholePart? x = some (truncated q) := by
  have hbounds : (decide (-2 ^ 63 ≤ truncated q) && decide (truncated q ≤ 2 ^ 63)) = true := by
    rw [Bool.and_eq_true, decide_eq_true_eq, decide_eq_true_eq]
    omega
  have hmin : min (truncated q) (2 ^ 63 - 1) = truncated q := by omega
  simp only [wholePart?, x.truncate?_eq, hx, Option.map_some, hbounds, if_true, hmin]

/-- The one number beyond the range that is let through is cut down to the greatest integer. -/
theorem wholePart?_of_limit (hx : x.number? = some q) (hlimit : truncated q = 2 ^ 63) :
    wholePart? x = some (2 ^ 63 - 1) := by
  simp only [wholePart?, x.truncate?_eq, hx, Option.map_some, hlimit]
  rfl

/-- A whole part is the number without its fraction, or the greatest integer in place of the one
above. -/
theorem wholePart?_cases (h : wholePart? x = some n) :
    ∃ q, x.number? = some q ∧ (n = truncated q ∨ truncated q = 2 ^ 63 ∧ n = 2 ^ 63 - 1) := by
  unfold wholePart? at h
  rw [x.truncate?_eq] at h
  cases hx : x.number? with
  | none => simp [hx] at h
  | some q =>
    simp only [hx, Option.map_some] at h
    split at h
    · rename_i hbounds
      simp only [Bool.and_eq_true, decide_eq_true_eq] at hbounds
      cases h
      exact ⟨q, rfl, by omega⟩
    · cases h

end WholeParts

section Conversions

theorem eq_int64_of_holdsInteger (h : t.holdsInteger (2 ^ 63 - 1) = true) : t = .int64 := by
  cases t <;> simp [EdmType.holdsInteger, EdmType.integerBounds?] at h
  rfl

theorem convertDouble?_eq_bind (ht : t.integerBounds?.isSome = true) (x : Double) :
    convertDouble? x t = (wholePart? x).bind fun n => ofInteger? n t := by
  cases t <;> simp [EdmType.integerBounds?] at ht <;> rfl

theorem convertDecimal?_eq_ofInteger? (ht : t.integerBounds?.isSome = true) (d : Decimal) :
    convertDecimal? d t = ofInteger? (truncated d.number) t := by
  rw [← d.truncate_eq]
  cases t <;> simp [EdmType.integerBounds?] at ht <;> rfl

theorem cutsOffTo_double (ht : t.integerBounds?.isSome = true) :
    (double x).CutsOffTo t w ↔ convertDouble? x t = some w := by
  rw [convertDouble?_eq_bind ht]
  constructor
  · rintro ⟨q, hq, hinteger | ⟨⟨-, -, hlimit⟩, hinteger⟩⟩
    · obtain ⟨hlow, hhigh⟩ := hinteger.bounds
      rw [wholePart?_of_bounds hq hlow hhigh]
      exact ofInteger?_eq_some_iff.mpr hinteger
    · rw [wholePart?_of_limit hq hlimit]
      exact ofInteger?_eq_some_iff.mpr hinteger
  · intro h
    obtain ⟨n, hn, hw⟩ := Option.bind_eq_some_iff.mp h
    have hinteger := ofInteger?_eq_some_iff.mp hw
    obtain ⟨q, hq, rfl | ⟨hlimit, rfl⟩⟩ := wholePart?_cases hn
    · exact ⟨q, hq, Or.inl hinteger⟩
    · have hint64 := eq_int64_of_holdsInteger hinteger.holds
      exact ⟨q, hq, Or.inr ⟨⟨hint64, Or.inr rfl, hlimit⟩, hinteger⟩⟩

theorem cutsOffTo_single (x : Single) :
    (single x).CutsOffTo t w ↔ (double (x.convert .double)).CutsOffTo t w := by
  simp only [CutsOffTo, IsUpperLimit, number?, type?, x.number?_convert_double, reduceCtorEq,
    Option.some.injEq, or_false, false_or]

/-- Numbers that are not binary have no upper limit. -/
theorem cutsOffTo_exact (hq : v.number? = some q) (hsingle : v.type? ≠ some .single)
    (hdouble : v.type? ≠ some .double) : v.CutsOffTo t w ↔ ofInteger? (truncated q) t = some w := by
  simp [CutsOffTo, IsUpperLimit, hq, hsingle, hdouble, ofInteger?_eq_some_iff]

/-- A number converts to an integer type exactly if it is cut off to an integer of that type. -/
theorem convertNumeric?_eq_some_iff (hs : v.type? = some s) (hnumeric : s.isNumeric = true)
    (ht : t.integerBounds?.isSome = true) : v.convertNumeric? t = some w ↔ v.CutsOffTo t w := by
  rcases numeric_cases hs hnumeric with ⟨n, hn⟩ | ⟨x, rfl⟩ | ⟨x, rfl⟩ | ⟨d, rfl⟩
  · rw [convertNumeric?_eq_ofInteger? hn ht]
    have hq : v.number? = some (n : ℚ) := by
      cases v <;> simp [integer?] at hn <;> simp [number?, integer?, hn]
    rw [cutsOffTo_exact hq, truncated_intCast]
    all_goals cases v <;> simp [integer?] at hn <;> simp [type?]
  · rw [cutsOffTo_single, cutsOffTo_double ht]
    rfl
  · rw [cutsOffTo_double ht]
    rfl
  · rw [cutsOffTo_exact rfl (by simp [type?]) (by simp [type?]),
      ← convertDecimal?_eq_ofInteger? ht]
    rfl

theorem isInteger_of_type (hs : v.type? = some t) (ht : t.integerBounds?.isSome = true) :
    ∃ n, v.IsInteger t n := by
  cases v <;> cases hs <;> simp [EdmType.integerBounds?] at ht <;> exact ⟨_, rfl, rfl⟩

/-- A value that has the type already is its own conversion. -/
theorem convertTo_eq_ok_iff {nullable : Bool} (hs : v.type? = some s)
    (ht : t.integerBounds?.isSome = true) :
    v.convertTo (.of (.primitive t) nullable) = .ok w ↔ v.convertNumeric? t = some w := by
  have hnumeric : t.isNumeric = true := by
    cases t <;> simp [EdmType.integerBounds?] at ht <;> rfl
  by_cases hst : s = t
  · subst hst
    obtain ⟨n, hn⟩ := isInteger_of_type hs ht
    have haccepts : (ColumnType.of (.primitive s) nullable).accepts v = true :=
      accepts_of_type hs (EdmType.ne_complex_of_isNumeric hnumeric)
    rw [convertNumeric?_self hs hnumeric, hn.withOneNaN_eq]
    simp [convertTo, haccepts]
  · have haccepts : (ColumnType.of (.primitive t) nullable).accepts v = false :=
      accepts_of_ne hs hst
    unfold convertTo
    simp only [haccepts, hnumeric, if_true]
    cases v.convertNumeric? t <;> simp

/-- A number is converted to an integer type exactly if it is finite and the type holds its whole
part, which is the result; besides, the upper limit of 64 bits is lowered by one. -/
theorem convertTo_integer_iff (v : Value) (s t : EdmType) (nullable : Bool)
    (hs : v.type? = some s) (hnumeric : s.isNumeric = true)
    (ht : t.integerBounds?.isSome = true) :
    ((∃ w, v.convertTo (.of (.primitive t) nullable) = .ok w) ↔
        ∃ q, v.number? = some q ∧
          (t.holdsInteger (truncated q) = true ∨ v.IsUpperLimit t q)) ∧
      ∀ w, v.convertTo (.of (.primitive t) nullable) = .ok w ↔
        ∃ q, v.number? = some q ∧
          (w.IsInteger t (truncated q) ∨ v.IsUpperLimit t q ∧ w.IsInteger t (2 ^ 63 - 1)) := by
  have hresult (w : Value) :
      v.convertTo (.of (.primitive t) nullable) = .ok w ↔ v.CutsOffTo t w := by
    rw [convertTo_eq_ok_iff hs ht, convertNumeric?_eq_some_iff hs hnumeric ht]
  refine ⟨?_, hresult⟩
  simp only [hresult]
  constructor
  · rintro ⟨w, q, hq, hinteger | ⟨hlimit, -⟩⟩
    · exact ⟨q, hq, Or.inl hinteger.holds⟩
    · exact ⟨q, hq, Or.inr hlimit⟩
  · rintro ⟨q, hq, hholds | hlimit⟩
    · obtain ⟨w, hw⟩ := exists_isInteger_iff.mpr hholds
      exact ⟨w, q, hq, Or.inl hw⟩
    · obtain ⟨w, hw⟩ := exists_isInteger_iff (t := t) (n := 2 ^ 63 - 1).mpr (hlimit.1 ▸ rfl)
      exact ⟨w, q, hq, Or.inr ⟨hlimit, hw⟩⟩

def balance : Single := ⟨0xc0f00000#32⟩

theorem convertTo_integer_iff_balance :
    (single balance).type? = some .single ∧
      (single balance).convertTo (.ofEdm .int32) = .ok (.int32 (-7)) ∧
      ∃ q, (single balance).number? = some q ∧ truncated q = -7 := by
  have hconverted : (single balance).convertTo (.ofEdm .int32) = .ok (.int32 (-7)) := rfl
  obtain ⟨-, hresult⟩ :=
    convertTo_integer_iff (single balance) .single .int32 false rfl rfl rfl
  obtain ⟨q, hq, hinteger | ⟨hlimit, -⟩⟩ := (hresult (.int32 (-7))).mp hconverted
  · exact ⟨rfl, hconverted, q, hq, (Option.some.inj hinteger.number_eq).symm⟩
  · cases hlimit.1

def upperLimit : Double := ⟨0x43e0000000000000#64⟩

/-- The upper limit is outside the integers of 64 bits and is converted to the greatest of them. -/
theorem convertTo_upperLimit :
    upperLimit.number? = some ((2 ^ 63 : Int) : ℚ) ∧
      EdmType.int64.holdsInteger (truncated ((2 ^ 63 : Int) : ℚ)) = false ∧
      (double upperLimit).convertTo (.ofEdm .int64) = .ok (.int64 Int64.maxValue) := by
  refine ⟨?_, by rw [truncated_intCast]; rfl, rfl⟩
  have hsignificand : upperLimit.significand = 2 ^ 52 := by decide
  have hexponent : upperLimit.exponent = 11 := by decide
  have hnumber : upperLimit.number? =
      some ((upperLimit.significand : ℚ) * 2 ^ upperLimit.exponent) := rfl
  rw [hnumber, hsignificand, hexponent]
  norm_num

end Conversions

end RowQuery.Value
