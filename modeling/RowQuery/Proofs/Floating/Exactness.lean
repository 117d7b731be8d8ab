import RowQuery.Floating.Arithmetic

/-!
Numbers that need no rounding. A significand and an exponent that a format
holds are those that their code gives back, and rounding the same number,
however it is written, leads to that code. A single number therefore survives
the way into the double format and back.
-/

namespace RowQuery

namespace Format

/-- What a format keeps without rounding: a significand of at most its digits, and of exactly these
unless the exponent is the least. -/
structure Holds (f : Format) (significand : Nat) (exponent : Int) : Prop where
  significand_lt : significand < 2 * f.fractionCount
  least_le : f.leastExponent ≤ exponent
  normal : f.fractionCount ≤ significand ∨ exponent = f.leastExponent

def codeOf (f : Format) (significand : Nat) (exponent : Int) : Nat :=
  (exponent - f.leastExponent).toNat * f.fractionCount + significand

theorem fractionCount_pos (f : Format) : 0 < f.fractionCount :=
  Nat.two_pow_pos _

theorem two_pow_width (f : Format) : 2 ^ f.width = 2 * (f.exponentCount * f.fractionCount) := by
  simp only [width, exponentCount, fractionCount, Nat.pow_add, Nat.pow_one, Nat.mul_assoc]

theorem infinityCode_lt (f : Format) : f.infinityCode < f.exponentCount * f.fractionCount := by
  have hpos : 0 < f.exponentCount := Nat.two_pow_pos _
  exact Nat.mul_lt_mul_of_pos_right (by omega) f.fractionCount_pos

end Format

namespace Floating

variable {f : Format}

section Codes

variable {negative : Bool} {code : Nat}

/-- The sign of a number is its leading bit, the code is the rest. -/
theorem toNat_ofCode (h : code < f.exponentCount * f.fractionCount) :
    (ofCode negative code : Floating f).bits.toNat =
      (if negative then f.exponentCount * f.fractionCount else 0) + code := by
  have hwidth := f.two_pow_width
  unfold ofCode
  rw [BitVec.toNat_ofNat]
  apply Nat.mod_eq_of_lt
  cases negative <;> simp <;> omega

theorem code_ofCode (h : code < f.exponentCount * f.fractionCount) :
    (ofCode negative code : Floating f).code = code := by
  unfold Floating.code
  rw [toNat_ofCode h]
  cases negative
  · simpa using Nat.mod_eq_of_lt h
  · simpa using Nat.mod_eq_of_lt h

theorem negative_eq (x : Floating f) :
    x.negative = decide (f.exponentCount * f.fractionCount ≤ x.bits.toNat) := by
  have hhalf : 2 ^ (f.width - 1) = f.exponentCount * f.fractionCount := by
    simp only [Format.width, Format.exponentCount, Format.fractionCount, ← Nat.pow_add]
    congr 1
    omega
  rw [Floating.negative, BitVec.msb_eq_decide, hhalf]

theorem negative_ofCode (h : code < f.exponentCount * f.fractionCount) :
    (ofCode negative code : Floating f).negative = negative := by
  rw [negative_eq, toNat_ofCode h]
  cases negative
  · simpa using h
  · simp

theorem ofCode_code (x : Floating f) : ofCode x.negative x.code = x := by
  have hlt := x.bits.isLt
  have hwidth := f.two_pow_width
  have hcount : 0 < f.exponentCount * f.fractionCount := by
    have := f.infinityCode_lt
    omega
  have hcode : x.code < f.exponentCount * f.fractionCount := Nat.mod_lt _ hcount
  have hbits : (ofCode x.negative x.code : Floating f).bits.toNat = x.bits.toNat := by
    rw [toNat_ofCode hcode, negative_eq]
    unfold Floating.code
    by_cases hsign : f.exponentCount * f.fractionCount ≤ x.bits.toNat
    · rw [Nat.mod_eq_sub_mod hsign, Nat.mod_eq_of_lt (by omega)]
      simp [hsign]
    · rw [Nat.mod_eq_of_lt (by omega)]
      simp [hsign]
  have heq := BitVec.eq_of_toNat_eq hbits
  cases x
  exact congrArg Floating.mk heq

end Codes

section Decoding

theorem holds (x : Floating f) : f.Holds x.significand x.exponent := by
  have hfraction : x.fraction < f.fractionCount := Nat.mod_lt _ f.fractionCount_pos
  unfold significand exponent
  by_cases hb : x.biasedExponent = 0
  · simp only [if_pos hb]
    exact ⟨by omega, by omega, by omega⟩
  · simp only [if_neg hb]
    exact ⟨by omega, by omega, by omega⟩

/-- Taking a number apart into significand and exponent loses nothing. -/
theorem codeOf_significand (x : Floating f) : f.codeOf x.significand x.exponent = x.code := by
  have hparts : f.fractionCount * x.biasedExponent + x.fraction = x.code := Nat.div_add_mod _ _
  have hplaces : (x.exponent - f.leastExponent).toNat = x.biasedExponent - 1 := by
    unfold exponent
    omega
  unfold Format.codeOf significand
  rw [hplaces]
  by_cases hb : x.biasedExponent = 0
  · rw [hb] at hparts
    rw [if_pos hb, hb]
    omega
  · obtain ⟨k, hk⟩ := Nat.exists_eq_succ_of_ne_zero hb
    rw [if_neg hb, ← hparts, hk, Nat.mul_comm f.fractionCount, Nat.succ_mul]
    simp only [Nat.succ_eq_add_one, Nat.add_sub_cancel]
    omega

variable {x : Floating f} {m : Nat} {e : Int}

/-- A code gives back what it was made of. -/
theorem significand_of_code (h : f.Holds m e) (hx : x.code = f.codeOf m e) :
    x.significand = m ∧ x.exponent = e := by
  obtain ⟨hlt, hleast, hnormal⟩ := h
  have hpos := f.fractionCount_pos
  unfold significand exponent biasedExponent fraction
  rw [hx]
  unfold Format.codeOf
  rcases Nat.lt_or_ge m f.fractionCount with hm | hm
  · have he : e = f.leastExponent := by omega
    have hzero : (e - f.leastExponent).toNat = 0 := by omega
    rw [hzero, Nat.zero_mul, Nat.zero_add, Nat.div_eq_of_lt hm, Nat.mod_eq_of_lt hm, if_pos rfl]
    omega
  · obtain ⟨n, rfl⟩ := Nat.exists_eq_add_of_le hm
    have hn : n < f.fractionCount := by omega
    have hcode : (e - f.leastExponent).toNat * f.fractionCount + (f.fractionCount + n) =
        n + ((e - f.leastExponent).toNat + 1) * f.fractionCount := by
      rw [Nat.succ_mul]
      omega
    rw [hcode, Nat.add_mul_div_right _ _ hpos, Nat.add_mul_mod_self_right, Nat.div_eq_of_lt hn,
      Nat.mod_eq_of_lt hn, if_neg (by omega)]
    omega

end Decoding

/-- Two significands at exponents that denote the same number. -/
def SameNumber (m : Nat) (d : Int) (n : Nat) (e : Int) : Prop :=
  m * 2 ^ d.toNat * 2 ^ (-e).toNat = n * 2 ^ e.toNat * 2 ^ (-d).toNat

theorem log2_mul_two_pow {m : Nat} (hm : m ≠ 0) (k : Nat) : (m * 2 ^ k).log2 = m.log2 + k := by
  have hpos : 0 < 2 ^ k := Nat.two_pow_pos k
  have hne : m * 2 ^ k ≠ 0 := Nat.mul_ne_zero hm (Nat.ne_of_gt hpos)
  rw [Nat.log2_eq_iff hne]
  constructor
  · rw [Nat.pow_add]
    exact Nat.mul_le_mul_right _ (Nat.log2_self_le hm)
  · rw [Nat.add_right_comm, Nat.pow_add]
    exact Nat.mul_lt_mul_of_pos_right Nat.lt_log2_self hpos

section Rounding

variable {m n : Nat} {d e : Int}

/-- Two forms of the same number have their leading bit at the same place. -/
theorem SameNumber.log2 (h : SameNumber m d n e) (hm : m ≠ 0) (hn : n ≠ 0) :
    (m.log2 : Int) + d = n.log2 + e := by
  have hlog := congrArg Nat.log2 h
  rw [Nat.mul_assoc, Nat.mul_assoc, ← Nat.pow_add, ← Nat.pow_add, log2_mul_two_pow hm,
    log2_mul_two_pow hn] at hlog
  omega

/-- Zeros that are moved into the significand lower the exponent. -/
theorem SameNumber.shift (m : Nat) (d : Int) (k : Nat) : SameNumber m d (m * 2 ^ k) (d - k) := by
  unfold SameNumber
  rw [Nat.mul_assoc, Nat.mul_assoc, Nat.mul_assoc, ← Nat.pow_add, ← Nat.pow_add, ← Nat.pow_add]
  congr 2
  omega

theorem divideToEven_mul (m : Nat) {den : Nat} (h : 0 < den) : divideToEven (m * den) den = m := by
  have hcompare : compare (2 * 0) den = .lt := Nat.compare_eq_lt.mpr (by omega)
  unfold divideToEven
  rw [Nat.mul_mod_left, hcompare]
  exact Nat.mul_div_cancel m h

/-- The last place is the one that leaves all digits to the significand, if the format has it. -/
theorem lastPlace_ofScaled (f : Format) (hm : m ≠ 0) :
    lastPlace f (m * 2 ^ d.toNat) (2 ^ (-d).toNat) =
      max f.leastExponent (m.log2 + d - f.fractionBits) := by
  have hlow : ((m * 2 ^ d.toNat).log2 : Int) - (2 ^ (-d).toNat).log2 - f.fractionBits - 1 =
      m.log2 + d - f.fractionBits - 1 := by
    rw [log2_mul_two_pow hm, Nat.log2_two_pow]
    omega
  have hdigits : ¬ m * 2 ^ d.toNat * 2 ^ (-(m.log2 + d - f.fractionBits - 1)).toNat /
      (2 ^ (-d).toNat * 2 ^ (m.log2 + d - f.fractionBits - 1).toNat) < 2 * f.fractionCount := by
    have hpos : 0 < 2 ^ (-d).toNat * 2 ^ (m.log2 + d - f.fractionBits - 1).toNat :=
      Nat.mul_pos (Nat.two_pow_pos _) (Nat.two_pow_pos _)
    rw [Nat.not_lt, Nat.le_div_iff_mul_le hpos]
    calc 2 * f.fractionCount *
          (2 ^ (-d).toNat * 2 ^ (m.log2 + d - f.fractionBits - 1).toNat)
        = 2 ^ m.log2 * (2 ^ d.toNat * 2 ^ (-(m.log2 + d - f.fractionBits - 1)).toNat) := by
          unfold Format.fractionCount
          rw [← Nat.pow_succ', ← Nat.pow_add, ← Nat.pow_add, ← Nat.pow_add, ← Nat.pow_add]
          congr 1
          omega
      _ ≤ m * 2 ^ d.toNat * 2 ^ (-(m.log2 + d - f.fractionBits - 1)).toNat := by
          rw [Nat.mul_assoc]
          exact Nat.mul_le_mul_right _ (Nat.log2_self_le hm)
  unfold lastPlace scaleDown
  simp only [hlow, if_neg hdigits]
  omega

/-- A number that the format holds is rounded to its code: its significand there fixes the last
place, and the division by that place leaves no rest. -/
theorem ofScaled_eq {negative : Bool} (h : f.Holds n e) (hn : n ≠ 0) (hm : m ≠ 0)
    (hsame : SameNumber m d n e) :
    ofScaled f negative m d = ofCode negative (min (f.codeOf n e) f.infinityCode) := by
  have hlog := hsame.log2 hm hn
  have hpow : ∀ k, 0 < 2 ^ k := Nat.two_pow_pos
  have hdigits : n.log2 < f.fractionBits + 1 := by
    rw [Nat.log2_lt hn, Nat.pow_succ']
    exact h.significand_lt
  have hplace : max f.leastExponent (m.log2 + d - f.fractionBits) = e := by
    have hleast := h.least_le
    rcases h.normal with hnormal | hnormal
    · have hall : f.fractionBits ≤ n.log2 := (Nat.le_log2 hn).mpr hnormal
      omega
    · omega
  have hnum : m * 2 ^ d.toNat * 2 ^ (-e).toNat = n * (2 ^ (-d).toNat * 2 ^ e.toNat) := by
    rw [Nat.mul_comm (2 ^ (-d).toNat), ← Nat.mul_assoc]
    exact hsame
  have hne : m * 2 ^ d.toNat ≠ 0 := Nat.mul_ne_zero hm (Nat.ne_of_gt (hpow _))
  unfold ofScaled ofRatio scaleDown
  rw [if_neg hne, lastPlace_ofScaled f hm, hplace]
  simp only [hnum, divideToEven_mul n (Nat.mul_pos (hpow _) (hpow _))]
  rfl

end Rounding

section Conversions

/-- What a number of a given code below infinity is made of. -/
theorem convert_of_code {g : Format} {x : Floating f} {negative : Bool} {m : Nat} {d : Int}
    (h : f.Holds m d) (hcode : f.codeOf m d < f.infinityCode)
    (hx : x = ofCode negative (f.codeOf m d)) : x.convert g = ofScaled g negative m d := by
  have hlt : f.codeOf m d < f.exponentCount * f.fractionCount := by
    have := f.infinityCode_lt
    omega
  have hxcode : x.code = f.codeOf m d := by rw [hx, code_ofCode hlt]
  obtain ⟨hm, hd⟩ := significand_of_code h hxcode
  have hnan : x.isNaN = false := by simp only [isNaN, hxcode, decide_eq_false_iff_not]; omega
  have hinf : x.isInfinite = false := by
    simp only [isInfinite, hxcode, beq_eq_false_iff_ne]
    omega
  have hnegative : x.negative = negative := by rw [hx, negative_ofCode hlt]
  unfold convert
  simp only [hnan, hinf, hm, hd, hnegative, Bool.false_eq_true, if_false]

/-- The double format has a code of its own for every finite single number, with more digits. -/
theorem exists_double (x : Single) (hfinite : x.isFinite = true) (hx : x.significand ≠ 0) :
    ∃ n e, Format.double.Holds n e ∧ n ≠ 0 ∧ SameNumber x.significand x.exponent n e ∧
      Format.double.codeOf n e < Format.double.infinityCode := by
  obtain ⟨hlt, hleast, -⟩ := x.holds
  have hlog : x.significand.log2 < 24 := (Nat.log2_lt hx).mpr hlt
  have hbiased : x.biasedExponent < 255 := by
    simp only [isFinite, decide_eq_true_eq] at hfinite
    exact Nat.div_lt_of_lt_mul (by rw [Nat.mul_comm]; exact hfinite)
  have hexponent : -149 ≤ x.exponent ∧ x.exponent ≤ 104 := by
    refine ⟨hleast, ?_⟩
    have hle : x.exponent = -149 + ((x.biasedExponent - 1 : Nat) : Int) := rfl
    omega
  have hdigits : x.significand.log2 + (52 - x.significand.log2) = 52 := by omega
  have hlow : 2 ^ 52 ≤ x.significand * 2 ^ (52 - x.significand.log2) := by
    calc 2 ^ 52 = 2 ^ x.significand.log2 * 2 ^ (52 - x.significand.log2) := by
          rw [← Nat.pow_add, hdigits]
      _ ≤ _ := Nat.mul_le_mul_right _ (Nat.log2_self_le hx)
  have hhigh : x.significand * 2 ^ (52 - x.significand.log2) < 2 * 2 ^ 52 := by
    calc x.significand * 2 ^ (52 - x.significand.log2)
        < 2 ^ (x.significand.log2 + 1) * 2 ^ (52 - x.significand.log2) :=
          Nat.mul_lt_mul_of_pos_right Nat.lt_log2_self (Nat.two_pow_pos _)
      _ = 2 * 2 ^ 52 := by
          rw [← Nat.pow_add, Nat.add_right_comm, hdigits, Nat.pow_succ']
  refine ⟨x.significand * 2 ^ (52 - x.significand.log2),
    x.exponent - (52 - x.significand.log2 : Nat), ⟨hhigh, ?_, Or.inl hlow⟩, by omega,
    SameNumber.shift _ _ _, ?_⟩
  · change -1074 ≤ x.exponent - (52 - x.significand.log2 : Nat)
    omega
  · change (x.exponent - (52 - x.significand.log2 : Nat) - -1074).toNat * 2 ^ 52 + _ < 2047 * 2 ^ 52
    omega

/-- What a single number becomes in the double format, which holds every finite one. -/
inductive BecomesDouble (x : Single) (y : Double) : Prop where
  | noNumber (hnan : x.isNaN = true) (hy : y = nan)
  | infinite (hnan : x.isNaN = false) (hcode : x.code = Format.single.infinityCode)
      (hy : y = infinity x.negative)
  | zero (hnan : x.isNaN = false) (hcode : x.code = 0) (hzero : x.significand = 0)
      (hy : y = zero x.negative)
  | held (n : Nat) (e : Int) (hfinite : x.code < Format.single.infinityCode)
      (hx : x.significand ≠ 0) (hholds : Format.double.Holds n e) (hn : n ≠ 0)
      (hsame : SameNumber x.significand x.exponent n e)
      (hlt : Format.double.codeOf n e < Format.double.infinityCode)
      (hy : y = ofCode x.negative (Format.double.codeOf n e))

/-- Every number of 32 bits is one of 64 bits, and converting it gives that one. -/
theorem becomesDouble (x : Single) : BecomesDouble x (x.convert .double) := by
  by_cases hnan : x.isNaN = true
  · exact .noNumber hnan (by simp only [convert, if_pos hnan])
  simp only [Bool.not_eq_true] at hnan
  by_cases hinf : x.isInfinite = true
  · have hcode : x.code = Format.single.infinityCode := by simpa [isInfinite] using hinf
    refine .infinite hnan hcode ?_
    simp only [convert, hnan, if_pos hinf, Bool.false_eq_true, if_false]
  have hfinite : x.code < Format.single.infinityCode := by
    simp only [isNaN, isInfinite, decide_eq_false_iff_not, beq_iff_eq] at hnan hinf
    omega
  have hthere : x.convert .double = ofScaled .double x.negative x.significand x.exponent := by
    simp only [convert, hnan, if_neg hinf, Bool.false_eq_true, if_false]
  by_cases hzero : x.significand = 0
  · have hleast : x.exponent = Format.single.leastExponent := by
      have hpos := Format.single.fractionCount_pos
      have hnormal := x.holds.normal
      omega
    have hcode : x.code = 0 := by
      rw [← codeOf_significand x, hzero, hleast]
      rfl
    refine .zero hnan hcode hzero ?_
    simp only [hthere, ofScaled, ofRatio, hzero, Nat.zero_mul, if_pos]
  · have hx : x.isFinite = true := by simpa [isFinite] using hfinite
    obtain ⟨n, e, hholds, hn, hsame, hlt⟩ := exists_double x hx hzero
    refine .held n e hfinite hzero hholds hn hsame hlt ?_
    rw [hthere, ofScaled_eq hholds hn hzero hsame, Nat.min_eq_left (Nat.le_of_lt hlt)]

/-- A single number comes back from the double format, except that all that are no numbers are
one there. -/
theorem convert_double_single (x : Single) :
    (x.convert .double).convert .single = if x.isNaN then nan else x := by
  have hback := ofCode_code x
  cases x.becomesDouble with
  | noNumber hnan hy =>
    rw [hy, if_pos hnan]
    rfl
  | infinite hnan hcode hy =>
    have hdouble : ∀ negative, (infinity negative : Double).convert .single =
        infinity negative := by decide
    rw [hcode] at hback
    rw [hy, hdouble, hnan]
    exact hback
  | zero hnan hcode hzero hy =>
    have hdouble : ∀ negative, (zero negative : Double).convert .single = zero negative := by
      decide
    rw [hcode] at hback
    rw [hy, hdouble, hnan]
    exact hback
  | held n e hfinite hx hholds hn hsame hlt hy =>
    have hnan : x.isNaN = false := by
      simp only [isNaN, decide_eq_false_iff_not]
      omega
    rw [hy, convert_of_code hholds hlt rfl, ofScaled_eq x.holds hx hn hsame.symm,
      codeOf_significand, Nat.min_eq_left (Nat.le_of_lt hfinite), hback, hnan]
    rfl

end Conversions

end Floating

end RowQuery
