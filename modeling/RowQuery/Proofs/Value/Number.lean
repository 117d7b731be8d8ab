import Mathlib.Data.Rat.Floor
import RowQuery.Proofs.Floating.Exactness
import RowQuery.Value.Conversion

/-!
The numbers that numeric values stand for, as fractions. A finite binary number
is its significand times a power of two, a decimal its coefficient over a power
of ten. Cutting either off leaves the whole part of its fraction, and a single
number stands for the same fraction in the double format.
-/

namespace RowQuery

section Fractions

/-- The whole part of a fraction, cut towards zero. -/
def truncated (q : ℚ) : ℤ :=
  if 0 ≤ q then ⌊q⌋ else ⌈q⌉

theorem truncated_div (n : ℤ) {d : ℕ} (hd : 0 < d) : truncated (n / d) = n.tdiv d := by
  have hpos : (0 : ℚ) < d := Nat.cast_pos.mpr hd
  unfold truncated
  by_cases hn : 0 ≤ n
  · have hq : (0 : ℚ) ≤ n / d := div_nonneg (Int.cast_nonneg hn) hpos.le
    rw [if_pos hq, Rat.floor_intCast_div_natCast, Int.tdiv_eq_ediv_of_nonneg hn]
  · have hneg : (n : ℚ) < 0 := Int.cast_lt_zero.mpr (by omega)
    have hq : ¬ (0 : ℚ) ≤ n / d := not_le.mpr (div_neg_of_neg_of_pos hneg hpos)
    have hopposite : (-n).tdiv d = -n / d := Int.tdiv_eq_ediv_of_nonneg (by omega)
    rw [if_neg hq, Rat.ceil_intCast_div_natCast, ← hopposite, Int.neg_tdiv, Int.neg_neg]

@[simp] theorem truncated_intCast (n : ℤ) : truncated n = n := by
  simpa using truncated_div n Nat.one_pos

theorem two_zpow_eq_div (e : ℤ) :
    (2 : ℚ) ^ e = ((2 ^ e.toNat : ℕ) : ℚ) / ((2 ^ (-e).toNat : ℕ) : ℚ) := by
  cases e with
  | ofNat n => simp
  | negSucc n => simp

end Fractions

namespace Floating

variable {f : Format}

def number? (x : Floating f) : Option ℚ :=
  if x.isFinite then some (signed x.negative x.significand * 2 ^ x.exponent) else none

theorem signed_mul (negative : Bool) (m n : ℕ) :
    signed negative m * n = signed negative (m * n) := by
  cases negative <;> simp [signed]

theorem signed_tdiv (negative : Bool) (m n : ℕ) :
    (signed negative m).tdiv n = signed negative (m / n) := by
  cases negative <;> simp [signed]

/-- The whole part of a finite number is the number without its fraction. -/
theorem truncate?_eq (x : Floating f) : x.truncate? = x.number?.map truncated := by
  unfold truncate? number?
  by_cases hfinite : x.isFinite = true
  · rw [if_pos hfinite, if_pos hfinite, two_zpow_eq_div, ← mul_div_assoc, Option.map_some]
    congr 1
    rw [← Int.cast_natCast, ← Int.cast_mul, truncated_div _ (Nat.two_pow_pos _), signed_mul,
      signed_tdiv]
  · rw [if_neg hfinite, if_neg hfinite, Option.map_none]

/-- Two forms of the same number have the same value. -/
theorem SameNumber.mul_zpow {m n : ℕ} {d e : ℤ} (h : SameNumber m d n e) :
    (m : ℚ) * 2 ^ d = n * 2 ^ e := by
  rw [two_zpow_eq_div, two_zpow_eq_div, ← mul_div_assoc, ← mul_div_assoc, div_eq_div_iff]
  · exact_mod_cast h
  · simp
  · simp

theorem number?_of_not_isFinite {x : Floating f} (h : x.isFinite = false) : x.number? = none := by
  simp [number?, h]

theorem number?_of_significand {x : Floating f} (hfinite : x.isFinite = true)
    (hzero : x.significand = 0) : x.number? = some 0 := by
  simp [number?, hfinite, hzero, signed]

theorem isFinite_of_number? {x : Floating f} {q : ℚ} (h : x.number? = some q) :
    x.isFinite = true := by
  by_contra hnot
  simp [number?, hnot] at h

theorem significand_of_isZero (x : Floating f) (h : x.isZero = true) : x.significand = 0 := by
  have hcode : x.code = 0 := by simpa [isZero] using h
  simp [significand, biasedExponent, fraction, hcode]

theorem number?_of_zero_le_exponent {x : Floating f} (hfinite : x.isFinite = true)
    (h : 0 ≤ x.exponent) :
    x.number? = some (signed x.negative (x.significand * 2 ^ x.exponent.toNat) : ℚ) := by
  obtain ⟨n, hn⟩ := Int.eq_ofNat_of_zero_le h
  rw [number?, if_pos hfinite, ← signed_mul, hn]
  simp

theorem number?_of_exponent_lt_zero {x : Floating f} (hfinite : x.isFinite = true)
    (h : x.exponent < 0) :
    x.number? = some (signed x.negative x.significand / 2 ^ (-x.exponent).toNat : ℚ) := by
  have hwhole : x.exponent.toNat = 0 := by omega
  rw [number?, if_pos hfinite, two_zpow_eq_div, hwhole]
  simp [div_eq_mul_inv]

/-- The code of a number that the format holds has that number. -/
theorem number?_ofCode {negative : Bool} {m : ℕ} {e : ℤ} (h : f.Holds m e)
    (hlt : f.codeOf m e < f.infinityCode) :
    (ofCode negative (f.codeOf m e) : Floating f).number? =
      some ((signed negative m : ℚ) * 2 ^ e) := by
  have hcount : f.codeOf m e < f.exponentCount * f.fractionCount := hlt.trans f.infinityCode_lt
  have hcode : (ofCode negative (f.codeOf m e) : Floating f).code = f.codeOf m e :=
    code_ofCode hcount
  obtain ⟨hm, he⟩ := significand_of_code h hcode
  have hfinite : (ofCode negative (f.codeOf m e) : Floating f).isFinite = true := by
    simpa [isFinite, hcode] using hlt
  unfold number?
  rw [if_pos hfinite, negative_ofCode hcount, hm, he]

theorem signed_mul_zpow {m n : ℕ} {d e : ℤ} (h : SameNumber m d n e) (negative : Bool) :
    (signed negative m : ℚ) * 2 ^ d = signed negative n * 2 ^ e := by
  have hmagnitude := h.mul_zpow
  cases negative <;> simp [signed, hmagnitude]

/-- The double format holds every finite single number. -/
theorem number?_convert_double (x : Single) : (x.convert .double).number? = x.number? := by
  cases x.becomesDouble with
  | noNumber hnan hy =>
    have hfinite : x.isFinite = false := by
      simp only [isNaN, isFinite, decide_eq_true_eq, decide_eq_false_iff_not] at hnan ⊢
      omega
    rw [hy, number?_of_not_isFinite hfinite, number?_of_not_isFinite rfl]
  | infinite hnan hcode hy =>
    have hfinite : x.isFinite = false := by simp [isFinite, hcode]
    have hdouble : (infinity x.negative : Double).isFinite = false := by
      cases x.negative <;> rfl
    rw [hy, number?_of_not_isFinite hfinite, number?_of_not_isFinite hdouble]
  | zero hnan hcode hzero hy =>
    have hfinite : x.isFinite = true := by
      simp only [isFinite, hcode]
      rfl
    have hdouble : (zero x.negative : Double).isFinite = true ∧
        (zero x.negative : Double).significand = 0 := by
      cases x.negative <;> decide
    rw [hy, number?_of_significand hdouble.1 hdouble.2, number?_of_significand hfinite hzero]
  | held n e hfinite hx hholds hn hsame hlt hy =>
    have hisFinite : x.isFinite = true := by simpa [isFinite] using hfinite
    rw [hy, number?_ofCode hholds hlt, ← signed_mul_zpow hsame, number?, if_pos hisFinite]

end Floating

namespace Decimal

def number (d : Decimal) : ℚ :=
  Floating.signed d.negative d.coefficient / (10 ^ d.scale : ℕ)

theorem truncate_eq (d : Decimal) : d.truncate = truncated d.number := by
  unfold number
  rw [truncated_div _ (Nat.pow_pos (by decide)), Floating.signed_tdiv]
  rfl

end Decimal

namespace Value

/-- The number that a numeric value stands for, if it is finite. -/
def number? : Value → Option ℚ
  | .single x => x.number?
  | .double x => x.number?
  | .decimal d => some d.number
  | v => v.integer?.map Int.cast

end Value

end RowQuery
