import Mathlib.Data.Nat.Cast.Field
import Mathlib.Data.Nat.Cast.Order.Field
import Mathlib.Tactic.FieldSimp
import Mathlib.Tactic.Linarith
import Mathlib.Tactic.Ring
import RowQuery.Decimal.Conversion
import RowQuery.Proofs.Value.Number

/-!
Decimal expansions of binary fractions. Every binary place becomes a decimal one
by a factor of five, or goes into a half, and as long as the digits fit nothing
is lost. Beyond that halves are cut off and the last digits rounded, which
matters for numbers near zero only.
-/

namespace RowQuery.Decimal

/-- The number that digits with some places behind the point stand for. -/
def fraction (parts : ℕ × ℕ) : ℚ :=
  parts.1 / 10 ^ parts.2

theorem fraction_nonneg (parts : ℕ × ℕ) : 0 ≤ fraction parts :=
  div_nonneg (Nat.cast_nonneg _) (by positivity)

section Places

variable (value places : ℕ)

theorem fraction_half_le : fraction (value / 2, places) ≤ fraction (value, places) / 2 := by
  have hhalf : ((value / 2 : ℕ) : ℚ) ≤ value / 2 := Nat.cast_div_le
  calc fraction (value / 2, places)
      ≤ value / 2 / 10 ^ places := div_le_div_of_nonneg_right hhalf (by positivity)
    _ = fraction (value, places) / 2 := div_right_comm _ _ _

theorem fraction_half {value : ℕ} (heven : value % 2 = 0) :
    fraction (value / 2, places) = fraction (value, places) / 2 := by
  have hhalf : ((value / 2 : ℕ) : ℚ) = value / 2 :=
    Nat.cast_div (Nat.dvd_of_mod_eq_zero heven) two_ne_zero
  simp only [fraction, hhalf, div_right_comm]

/-- Five times the value, one place further down, is half the number. -/
theorem fraction_mul_five : fraction (value * 5, places + 1) = fraction (value, places) / 2 := by
  simp only [fraction, Nat.cast_mul, Nat.cast_ofNat]
  field_simp
  ring

/-- Rounding off a digit adds less than the difference of the units before and after it. -/
theorem fraction_withoutLastDigit_le :
    fraction (withoutLastDigit value, places) - 1 / 10 ^ places ≤
      fraction (value, places + 1) - 1 / 10 ^ (places + 1) := by
  have hdigits : withoutLastDigit value * 10 ≤ value + 9 := by
    unfold withoutLastDigit
    split <;> omega
  have hcast : (withoutLastDigit value : ℚ) * 10 ≤ value + 9 := by exact_mod_cast hdigits
  have hpos : (0 : ℚ) < 10 ^ places := by positivity
  simp only [fraction]
  rw [← sub_div, ← sub_div, pow_succ', ← div_div]
  refine div_le_div_of_nonneg_right ?_ hpos.le
  linarith

end Places

section Absorbing

/-- Halves that are cut off make the number smaller only. -/
theorem fraction_absorb_le (count : ℕ) (parts : ℕ × ℕ) :
    fraction (absorb count parts) ≤ fraction parts / 2 ^ count := by
  have hstep : ∀ {n : ℕ} {q r : ℚ}, q ≤ r / 2 → q / 2 ^ n ≤ r / 2 ^ (n + 1) := by
    intro n q r h
    rw [pow_succ', ← div_div]
    exact div_le_div_of_nonneg_right h (by positivity)
  fun_induction absorb count parts with
  | case1 parts => simp
  | case2 count value places heven ih => exact ih.trans (hstep (fraction_half_le value places))
  | case3 count value places hodd hfits ih =>
    exact ih.trans (hstep (fraction_mul_five value places).le)
  | case4 count value places hodd hfull ih =>
    exact ih.trans (hstep (fraction_half_le value places))

/-- Nothing is lost if there is room for all the factors. -/
theorem fraction_absorb (count value places : ℕ) (h : value * 5 ^ count < coefficientLimit) :
    fraction (absorb count (value, places)) = fraction (value, places) / 2 ^ count ∧
      (absorb count (value, places)).2 ≤ places + count := by
  induction count generalizing value places with
  | zero => simp [absorb]
  | succ count ih =>
    rw [pow_succ', ← div_div]
    by_cases heven : value % 2 = 0
    · have hhalf : value / 2 * 5 ^ count < coefficientLimit :=
        calc value / 2 * 5 ^ count ≤ value * 5 ^ (count + 1) :=
              Nat.mul_le_mul (Nat.div_le_self _ _) (Nat.pow_le_pow_right (by decide) (by omega))
          _ < coefficientLimit := h
      obtain ⟨hvalue, hplaces⟩ := ih (value / 2) places hhalf
      simp only [absorb, heven, beq_self_eq_true, if_true, hvalue, fraction_half places heven,
        true_and]
      omega
    · have hfive : value * 5 * 5 ^ count < coefficientLimit := by
        rwa [Nat.mul_assoc, ← Nat.pow_succ']
      have hfits : value * 5 < coefficientLimit :=
        (Nat.le_mul_of_pos_right _ (Nat.pow_pos (by decide))).trans_lt hfive
      obtain ⟨hvalue, hplaces⟩ := ih (value * 5) (places + 1) hfive
      have hodd : (value % 2 == 0) = false := by simpa using heven
      simp only [absorb, hodd, Bool.false_eq_true, if_false, if_pos hfits, hvalue,
        fraction_mul_five, true_and]
      omega

end Absorbing

section Limiting

theorem limitPlaces_of_le {value places : ℕ} (h : places ≤ scaleLimit) :
    limitPlaces value places = (value, places) := by
  cases places with
  | zero => rfl
  | succ places => simp only [limitPlaces, if_pos h]

/-- What the digits rounded off add up to is less than a unit of the last place that is kept. -/
theorem fraction_limitPlaces_le (value : ℕ) {places : ℕ} (h : scaleLimit ≤ places) :
    fraction (limitPlaces value places) ≤
      fraction (value, places) - 1 / 10 ^ places + 1 / 10 ^ scaleLimit := by
  induction places generalizing value with
  | zero => simp [scaleLimit] at h
  | succ places ih =>
    by_cases hlast : places + 1 ≤ scaleLimit
    · have hplaces : places + 1 = scaleLimit := le_antisymm hlast h
      rw [limitPlaces_of_le hlast, hplaces, sub_add_cancel]
    · have hunit : (1 : ℚ) / 10 ^ (places + 1) ≤ 1 / 10 ^ scaleLimit :=
        one_div_le_one_div_of_le (by positivity) (pow_le_pow_right₀ (by norm_num) h)
      simp only [limitPlaces, if_neg hlast]
      split
      · have hzero : fraction (0, 0) = 0 := by simp [fraction]
        have hnonneg := fraction_nonneg (value, places + 1)
        linarith
      · have hround := fraction_withoutLastDigit_le value places
        have hrest := ih (withoutLastDigit value) (by omega)
        linarith

end Limiting

section Numbers

theorem number_eq (d : Decimal) :
    d.number = if d.negative then -fraction (d.coefficient, d.scale)
      else fraction (d.coefficient, d.scale) := by
  unfold number fraction
  cases d.negative <;> simp [Floating.signed, neg_div]

theorem abs_number (d : Decimal) : |d.number| = fraction (d.coefficient, d.scale) := by
  have hnonneg := fraction_nonneg (d.coefficient, d.scale)
  rw [number_eq]
  split
  · rw [abs_neg, abs_of_nonneg hnonneg]
  · rw [abs_of_nonneg hnonneg]

end Numbers

end RowQuery.Decimal

namespace RowQuery.Floating

/-- The magnitude of a number with more binary places than decimals have decimal ones. -/
theorem significand_div_lt (x : Single) (h : x.exponent < -28) :
    (x.significand : ℚ) / 2 ^ (-x.exponent).toNat < 1 / 32 := by
  have hsignificand : x.significand < 2 ^ 24 := x.holds.significand_lt
  have hcast : (x.significand : ℚ) < 2 ^ 24 := by exact_mod_cast hsignificand
  have hpower : (2 : ℚ) ^ 29 ≤ 2 ^ (-x.exponent).toNat :=
    pow_le_pow_right₀ (by norm_num) (by omega)
  rw [div_lt_div_iff₀ (by positivity) (by norm_num)]
  linarith

end RowQuery.Floating

namespace RowQuery.Decimal

section Conversion

variable {x : Single} {d : Decimal} {q : ℚ}

/-- The digits of a binary fraction and the places they have behind the point. -/
def expansion (x : Single) : ℕ × ℕ :=
  let parts := absorb (-x.exponent).toNat (x.significand, 0)
  limitPlaces parts.1 parts.2

/-- Zero, whole numbers and fractions have their decimals in ways of their own. -/
theorem ofFloatingFull?_cases (hfinite : x.isFinite = true) (h : ofFloatingFull? x = some d) :
    (x.isZero = true ∧ d = ⟨x.negative, 0, 0⟩) ∨
      (0 ≤ x.exponent ∧ d = ⟨x.negative, x.significand * 2 ^ x.exponent.toNat, 0⟩) ∨
      (x.exponent < 0 ∧ d = ⟨x.negative, (expansion x).1, (expansion x).2⟩) := by
  simp only [ofFloatingFull?, hfinite, Bool.not_true, Bool.false_eq_true, if_false] at h
  by_cases hzero : x.isZero = true
  · simp only [if_pos hzero, Option.some.injEq] at h
    exact Or.inl ⟨hzero, h.symm⟩
  by_cases hexponent : 0 ≤ x.exponent
  · simp only [if_neg hzero, if_pos hexponent, Option.ite_none_right_eq_some,
      Option.some.injEq] at h
    exact Or.inr (Or.inl ⟨hexponent, h.2.symm⟩)
  · simp only [if_neg hzero, if_neg hexponent, Option.some.injEq] at h
    exact Or.inr (Or.inr ⟨by omega, h.symm⟩)

/-- A binary number too large for decimals is whole. -/
theorem zero_le_exponent_of_ofFloatingFull? (hfinite : x.isFinite = true)
    (h : ofFloatingFull? x = none) : 0 ≤ x.exponent := by
  by_contra hneg
  simp only [ofFloatingFull?, hfinite, Bool.not_true, Bool.false_eq_true, if_false,
    if_neg hneg] at h
  split at h <;> cases h

/-- With no more binary places than decimals may have, all the factors of five have room. -/
theorem fraction_expansion (x : Single) (h : -28 ≤ x.exponent) :
    fraction (expansion x) = x.significand / 2 ^ (-x.exponent).toNat := by
  have hsignificand : x.significand < 2 ^ 24 := x.holds.significand_lt
  have hroom : x.significand * 5 ^ (-x.exponent).toNat < coefficientLimit :=
    calc x.significand * 5 ^ (-x.exponent).toNat
        ≤ 2 ^ 24 * 5 ^ 28 :=
          Nat.mul_le_mul hsignificand.le (Nat.pow_le_pow_right (by decide) (by omega))
      _ < coefficientLimit := by decide
  obtain ⟨hvalue, hplaces⟩ := fraction_absorb _ _ 0 hroom
  have hscale : (absorb (-x.exponent).toNat (x.significand, 0)).2 ≤ scaleLimit := by
    unfold scaleLimit
    omega
  rw [expansion, limitPlaces_of_le hscale, hvalue]
  simp [fraction]

/-- The digits of a binary fraction with more places are not exact, but far below a tenth. -/
theorem fraction_expansion_lt (x : Single) (h : x.exponent < -28) :
    fraction (expansion x) < 1 / 20 := by
  have hmagnitude := x.significand_div_lt h
  have habsorbed : fraction (absorb (-x.exponent).toNat (x.significand, 0)) ≤
      x.significand / 2 ^ (-x.exponent).toNat := by
    simpa [fraction] using fraction_absorb_le (-x.exponent).toNat (x.significand, 0)
  unfold expansion
  generalize absorb (-x.exponent).toNat (x.significand, 0) = parts at habsorbed
  by_cases hscale : parts.2 ≤ scaleLimit
  · rw [limitPlaces_of_le hscale]
    linarith
  · have hlimited := fraction_limitPlaces_le parts.1 (Nat.le_of_not_le hscale)
    have hunit : (0 : ℚ) < 1 / 10 ^ parts.2 := by positivity
    have hlast : (1 : ℚ) / 10 ^ scaleLimit < 1 / 100 := by norm_num [scaleLimit]
    linarith

/-- The decimal for a binary number is that number, or both are nearer to zero than to a tenth. -/
theorem number_of_ofFloatingFull? (h : ofFloatingFull? x = some d) (hq : x.number? = some q) :
    d.number = q ∨ |d.number| < 1 / 20 ∧ |q| < 1 / 20 := by
  have hfinite := Floating.isFinite_of_number? hq
  rcases ofFloatingFull?_cases hfinite h with ⟨hzero, rfl⟩ | ⟨hwhole, rfl⟩ | ⟨hfraction, rfl⟩
  · rw [Floating.number?_of_significand hfinite (x.significand_of_isZero hzero)] at hq
    cases hq
    left
    simp [number_eq, fraction]
  · rw [Floating.number?_of_zero_le_exponent hfinite hwhole] at hq
    cases hq
    left
    simp [number]
  · rw [Floating.number?_of_exponent_lt_zero hfinite hfraction, Option.some.injEq] at hq
    by_cases hplaces : -28 ≤ x.exponent
    · left
      rw [number_eq, fraction_expansion x hplaces, ← hq]
      cases x.negative <;> simp [Floating.signed, neg_div]
    · right
      have hsmall := x.significand_div_lt (by omega)
      have hmagnitude : 0 ≤ (x.significand : ℚ) / 2 ^ (-x.exponent).toNat := by positivity
      have habs : |q| = x.significand / 2 ^ (-x.exponent).toNat := by
        rw [← hq, ← abs_of_nonneg hmagnitude]
        cases x.negative <;> simp [Floating.signed, neg_div]
      rw [abs_number, habs]
      exact ⟨fraction_expansion_lt x (by omega), by linarith⟩

end Conversion

end RowQuery.Decimal
