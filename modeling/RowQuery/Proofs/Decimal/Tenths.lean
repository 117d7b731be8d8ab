import Mathlib.Tactic.NormNum
import RowQuery.Decimal.Arithmetic
import RowQuery.Proofs.Decimal.Expansion

/-!
Rounding to tenths. Of two tenths that are equally near to a number the one
farther from zero is taken, so that there is exactly one nearest tenth. Half a
unit is added to the magnitude and the rest cut off, and the decimal that comes
out has its sign back.
-/

namespace RowQuery

/-- The number of tenths that is nearest to a number, and of two which are equally near the one
farther from zero. -/
def IsNearestTenth (q : ℚ) (n : ℤ) : Prop :=
  ∀ m : ℤ, m ≠ n → |q - n / 10| < |q - m / 10| ∨ |q - n / 10| = |q - m / 10| ∧ |m| < |n|

namespace IsNearestTenth

variable {q : ℚ} {m n : ℤ}

/-- Halves go away from zero, so no number has two nearest tenths. -/
theorem unique (hm : IsNearestTenth q m) (hn : IsNearestTenth q n) : m = n := by
  by_contra hne
  rcases hm n (Ne.symm hne) with hcloser | ⟨hequal, hfarther⟩
  · rcases hn m hne with hcloser' | ⟨hequal', -⟩
    · exact absurd hcloser' hcloser.not_gt
    · exact absurd hequal' hcloser.ne'
  · rcases hn m hne with hcloser' | ⟨-, hfarther'⟩
    · exact absurd hequal hcloser'.ne'
    · exact absurd hfarther' hfarther.not_gt

theorem neg (h : IsNearestTenth q n) : IsNearestTenth (-q) (-n) := by
  have hmirror : ∀ k : ℤ, |-q - ((-k : ℤ) : ℚ) / 10| = |q - k / 10| := by
    intro k
    rw [← abs_neg (q - k / 10)]
    congr 1
    push_cast
    ring
  intro m hm
  have hopposite := h (-m) (by omega)
  rw [← hmirror n, ← hmirror (-m), neg_neg, abs_neg] at hopposite
  rwa [abs_neg]

/-- Half a tenth more than the number lies less than a tenth above the nearest tenth. -/
theorem of_half_up {t : ℕ} (hq : 0 ≤ q) (hle : t ≤ q * 10 + 1 / 2)
    (hlt : q * 10 + 1 / 2 < t + 1) : IsNearestTenth q t := by
  intro m hm
  simp only [Int.cast_natCast]
  rcases lt_or_gt_of_ne hm with hbelow | habove
  · have hstep : (m : ℚ) + 1 ≤ t := by exact_mod_cast hbelow
    have hdistance : |q - m / 10| = q - m / 10 := abs_of_nonneg (by linarith)
    rw [hdistance]
    by_cases htie : q - t / 10 = -(1 / 20) ∧ (m : ℚ) + 1 = t
    · -- halfway between the two, of which the lower one is not negative either
      right
      obtain ⟨hhalf, hnext⟩ := htie
      have hpos : (0 : ℚ) < t := by linarith
      have hnat : 0 < t := by exact_mod_cast hpos
      have hint : m + 1 = t := by exact_mod_cast hnext
      refine ⟨?_, ?_⟩
      · rw [abs_of_nonpos (by linarith)]
        linarith
      · rw [abs_of_nonneg (by omega), abs_of_nonneg (by omega)]
        omega
    · left
      rw [abs_lt]
      refine ⟨?_, by linarith⟩
      by_contra hnot
      exact htie ⟨by linarith, by linarith⟩
  · have hstep : (t : ℚ) + 1 ≤ m := by exact_mod_cast habove
    left
    rw [abs_of_nonpos (show q - m / 10 ≤ 0 by linarith), abs_lt]
    exact ⟨by linarith, by linarith⟩

theorem zero_of_small (h : |q| < 1 / 20) : IsNearestTenth q 0 := by
  obtain ⟨hlow, hhigh⟩ := abs_lt.mp h
  rcases le_total 0 q with hq | hq
  · exact of_half_up hq (by push_cast; linarith) (by push_cast; linarith)
  · have hopposite : IsNearestTenth (-q) (0 : ℕ) :=
      of_half_up (by linarith) (by push_cast; linarith) (by push_cast; linarith)
    simpa using hopposite.neg

end IsNearestTenth

/-- A quotient is rounded by cutting off what half a unit more leaves over. -/
theorem divideHalfUp_bounds (num : ℕ) {den : ℕ} (hden : 0 < den) :
    (divideHalfUp num den : ℚ) ≤ num / den + 1 / 2 ∧
      (num : ℚ) / den + 1 / 2 < divideHalfUp num den + 1 := by
  have hpos : (0 : ℚ) < den := by exact_mod_cast hden
  have hlow : divideHalfUp num den * (2 * den) ≤ 2 * num + den := Nat.div_mul_le_self _ _
  have hhigh : 2 * num + den < (divideHalfUp num den + 1) * (2 * den) :=
    (Nat.lt_mul_div_succ _ (by omega)).trans_eq (Nat.mul_comm _ _)
  have hlow' : (divideHalfUp num den : ℚ) * (2 * den) ≤ 2 * num + den := by exact_mod_cast hlow
  have hhigh' : (2 * num + den : ℚ) < (divideHalfUp num den + 1) * (2 * den) := by
    exact_mod_cast hhigh
  have hsum : (num : ℚ) / den + 1 / 2 = (2 * num + den) / (2 * den) := by
    field_simp
  rw [hsum, le_div_iff₀ (by positivity), div_lt_iff₀ (by positivity)]
  exact ⟨hlow', hhigh'⟩

namespace Decimal

/-- Rounding to one place gives the tenths that lie within half a tenth, an exact half counting
upwards. -/
theorem unitsAt_roundAway_bounds (d : Decimal) :
    (unitsAt 1 (d.roundAway 1) : ℚ) ≤ |d.number| * 10 + 1 / 2 ∧
      |d.number| * 10 + 1 / 2 < unitsAt 1 (d.roundAway 1) + 1 := by
  rw [abs_number, fraction, roundAway]
  by_cases hscale : d.scale ≤ 1
  · -- all the digits are kept
    have hunits : (unitsAt 1 d : ℚ) = d.coefficient / 10 ^ d.scale * 10 := by
      rcases Nat.le_one_iff_eq_zero_or_eq_one.mp hscale with h | h <;> simp [unitsAt, h]
    rw [if_pos hscale, hunits]
    exact ⟨by linarith, by linarith⟩
  · obtain ⟨k, hk⟩ : ∃ k, d.scale = k + 1 := ⟨d.scale - 1, by omega⟩
    have hratio : (d.coefficient : ℚ) / 10 ^ (k + 1) * 10 = d.coefficient / (10 ^ k : ℕ) := by
      rw [pow_succ]
      push_cast
      field_simp
    rw [if_neg hscale, hk, hratio]
    simpa [unitsAt, ofParts] using
      divideHalfUp_bounds d.coefficient (Nat.pow_pos (n := k) (a := 10) (by decide))

/-- Rounding keeps the sign, except that of a number which becomes zero. -/
theorem signed_unitsAt_roundAway (d : Decimal) :
    Floating.signed (d.roundAway 1).negative (unitsAt 1 (d.roundAway 1)) =
      Floating.signed d.negative (unitsAt 1 (d.roundAway 1)) := by
  unfold roundAway
  split
  · rfl
  · by_cases hzero : divideHalfUp d.coefficient (10 ^ (d.scale - 1)) = 0
    · cases d.negative <;> simp [ofParts, unitsAt, hzero, Floating.signed]
    · have hkept : (divideHalfUp d.coefficient (10 ^ (d.scale - 1)) != 0) = true := by
        simpa using hzero
      simp only [ofParts, hkept, Bool.and_true]

/-- Rounding a decimal to one place, halves away from zero, gives its nearest tenth. -/
theorem isNearestTenth_roundAway (d : Decimal) :
    IsNearestTenth d.number
      (Floating.signed (d.roundAway 1).negative (unitsAt 1 (d.roundAway 1))) := by
  obtain ⟨hle, hlt⟩ := d.unitsAt_roundAway_bounds
  have hmagnitude := IsNearestTenth.of_half_up (abs_nonneg d.number) hle hlt
  rw [abs_number] at hmagnitude
  rw [signed_unitsAt_roundAway, number_eq]
  cases d.negative with
  | true => exact hmagnitude.neg
  | false => exact hmagnitude

end Decimal

end RowQuery
