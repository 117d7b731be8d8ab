import RowQuery.Node.Text
import RowQuery.Proofs.Decimal.Tenths
import RowQuery.Proofs.Text.Numeral

/-!
Literals of single numbers. A numeral with one digit behind its point counts
tenths, and what stands in front of the suffix counts the tenths that are nearest
to the exact number: where the decimal for the number is exact, where it is not,
and where the number is too large for decimals.
-/

namespace RowQuery

namespace Text

/-- Reads a numeral with exactly one digit behind its point, in tenths. -/
def readTenths? (cs : List Char) : Option Nat :=
  match cs.takeWhile isDigit, cs.dropWhile isDigit with
  | c :: whole, ['.', d] => (digit? d).map fun n => digitsValue (c :: whole) * 10 + n
  | _, _ => none

def readSignedTenths? : List Char → Option Int
  | '-' :: rest => (readTenths? rest).map (signed true)
  | cs => (readTenths? cs).map (signed false)

theorem isDigit_point : isDigit '.' = false := by decide

theorem digitsValue_append_digit (cs : List Char) {d : Char} {k : Nat} (hd : digit? d = some k) :
    digitsValue (cs ++ [d]) = digitsValue cs * 10 + k := by
  simp [digitsValue, hd]

/-- A numeral of at least two characters ends in a digit that has others before it. -/
theorem exists_padded_two_eq_append (n : Nat) :
    ∃ c whole d, padded 2 n = c :: whole ++ [d] := by
  have hlength : 2 ≤ (padded 2 n).length := by
    simp only [padded, padLeft, List.length_append, List.length_replicate]
    omega
  have hne : padded 2 n ≠ [] := List.length_pos_iff.mp (by omega)
  have hwhole : (padded 2 n).dropLast ≠ [] := by
    rw [← List.length_pos_iff, List.length_dropLast]
    omega
  obtain ⟨c, whole, hdigits⟩ := List.exists_cons_of_ne_nil hwhole
  exact ⟨c, whole, (padded 2 n).getLast hne, by rw [← hdigits, List.dropLast_concat_getLast]⟩

end Text

section Pointed

variable (n : Nat)

theorem Decimal.exists_pointed_eq :
    ∃ c whole d, Text.padded 2 n = c :: whole ++ [d] ∧
      Decimal.pointed n 1 = c :: whole ++ ['.', d] := by
  obtain ⟨c, whole, d, hdigits⟩ := Text.exists_padded_two_eq_append n
  refine ⟨c, whole, d, hdigits, ?_⟩
  have hwhole : (c :: whole ++ [d]).length - 1 = (c :: whole).length := by simp
  simp only [pointed, hdigits, hwhole, List.take_left, List.drop_left]
  simp

theorem Text.readTenths?_pointed : Text.readTenths? (Decimal.pointed n 1) = some n := by
  obtain ⟨c, whole, d, hdigits, hpointed⟩ := Decimal.exists_pointed_eq n
  have hall : ∀ e ∈ c :: whole ++ [d], isDigit e = true := by
    intro e he
    rw [isDigit_eq]
    exact isDigit_of_mem_padded (hdigits ▸ he)
  have hwhole : ∀ e ∈ c :: whole, isDigit e = true := fun e he =>
    hall e (List.mem_append_left _ he)
  obtain ⟨k, hk⟩ := Option.isSome_iff_exists.mp (hall d (by simp))
  have htake : (c :: whole ++ ['.', d]).takeWhile isDigit = c :: whole := by
    rw [List.takeWhile_append_of_pos hwhole, List.takeWhile_cons_of_neg (by simp [isDigit_point]),
      List.append_nil]
  have hdrop : (c :: whole ++ ['.', d]).dropWhile isDigit = ['.', d] := by
    rw [List.dropWhile_append_of_pos hwhole, List.dropWhile_cons_of_neg (by simp [isDigit_point])]
  have hvalue := digitsValue_padded 2 n
  rw [hdigits, digitsValue_append_digit _ hk] at hvalue
  rw [hpointed, readTenths?, htake, hdrop]
  simp only [hk, Option.map_some, hvalue]

/-- A number of tenths is read back from its numeral with one digit after the point. -/
theorem Text.readSignedTenths?_pointed (negative : Bool) :
    Text.readSignedTenths? (Floating.signText negative ++ Decimal.pointed n 1) =
      some (signed negative n) := by
  cases negative with
  | true =>
    change (readTenths? (Decimal.pointed n 1)).map (signed true) = _
    rw [readTenths?_pointed, Option.map_some]
  | false =>
    have hread := readTenths?_pointed n
    obtain ⟨c, whole, d, hdigits, hpointed⟩ := Decimal.exists_pointed_eq n
    have hmem : c ∈ padded 2 n := by simp [hdigits]
    have hc : c.isDigit = true := isDigit_of_mem_padded hmem
    have hminus : c ≠ '-' := by
      rintro rfl
      cases hc
    rw [hpointed, List.cons_append] at hread ⊢
    simp [Floating.signText, readSignedTenths?, hminus, hread]

end Pointed

section Rounding

/-- A whole number is its own nearest tenth. -/
theorem IsNearestTenth.of_whole (negative : Bool) (n : ℕ) :
    IsNearestTenth (Floating.signed negative n) (Floating.signed negative (n * 10)) := by
  have hnumber : IsNearestTenth n (n * 10 : ℕ) :=
    of_half_up n.cast_nonneg (by push_cast; linarith) (by push_cast; linarith)
  cases negative with
  | true => simpa [Floating.signed] using hnumber.neg
  | false => simpa [Floating.signed] using hnumber

variable {x : Single} {q : ℚ}

/-- The text shows a nearest tenth, found through a decimal or, beyond the range of those, from the
whole number itself. -/
theorem Floating.exists_oneDigitText_eq (hq : x.number? = some q) :
    ∃ negative n, x.oneDigitText = String.ofList (signText negative ++ Decimal.pointed n 1) ∧
      IsNearestTenth q (signed negative n) := by
  have hfinite := isFinite_of_number? hq
  cases hd : Decimal.ofFloatingFull? x with
  | none =>
    have hexponent := Decimal.zero_le_exponent_of_ofFloatingFull? hfinite hd
    rw [number?_of_zero_le_exponent hfinite hexponent] at hq
    cases hq
    exact ⟨_, _, by simp only [oneDigitText, hd], IsNearestTenth.of_whole _ _⟩
  | some d =>
    refine ⟨(d.roundAway 1).negative, (d.roundAway 1).unitsAt 1, by simp only [oneDigitText, hd],
      ?_⟩
    have hrounded := d.isNearestTenth_roundAway
    rcases Decimal.number_of_ofFloatingFull? hd hq with hexact | ⟨hdecimal, hsmall⟩
    · rwa [← hexact]
    · -- neither the number nor the decimal reaches half a tenth
      rw [hrounded.unique (IsNearestTenth.zero_of_small hdecimal)]
      exact IsNearestTenth.zero_of_small hsmall

theorem Floating.singleLiteral_of_isFinite (hfinite : x.isFinite = true) :
    x.singleLiteral = x.oneDigitText ++ "f" := by
  have hnan : x.isNaN = false := by
    simp only [isFinite, isNaN, decide_eq_true_eq, decide_eq_false_iff_not] at hfinite ⊢
    omega
  have hinfinite : x.isInfinite = false := by
    simp only [isFinite, isInfinite, decide_eq_true_eq, beq_eq_false_iff_ne] at hfinite ⊢
    omega
  simp [singleLiteral, literalWord?, hnan, hinfinite]

end Rounding

/-- In the text of a finite single number the numeral in front of the suffix has one digit behind
its point and counts the tenths that are nearest to the exact number. -/
theorem Node.text?_single_nearestTenth {x : Single} {q : ℚ} (hq : x.number? = some q) :
    ∃ numeral n, (Node.constant (.single x) .single).text? = some (numeral ++ "f") ∧
      Text.readSignedTenths? numeral.toList = some n ∧ IsNearestTenth q n := by
  have hfinite := Floating.isFinite_of_number? hq
  obtain ⟨negative, n, htext, hnearest⟩ := Floating.exists_oneDigitText_eq hq
  refine ⟨x.oneDigitText, Text.signed negative n, ?_, ?_, hnearest⟩
  · simp only [Node.text?, Value.literal?, Floating.singleLiteral_of_isFinite hfinite]
  · rw [htext, String.toList_ofList, Text.readSignedTenths?_pointed]

def Floating.minusQuarter : Single := ⟨0xbe800000#32⟩

/-- The least number beyond the range of decimals. -/
def Floating.coefficientLimit : Single := ⟨0x6f800000#32⟩

/-- Where a text is known, so is the number of tenths that is read from it. -/
theorem IsNearestTenth.of_shown {q : ℚ} {text? : Option String} {shown : String} {m : ℤ}
    (h : ∃ numeral n, text? = some (numeral ++ "f") ∧
      Text.readSignedTenths? numeral.toList = some n ∧ IsNearestTenth q n)
    (hshown : text? = some (shown ++ "f")) (hread : Text.readSignedTenths? shown.toList = some m) :
    IsNearestTenth q m := by
  obtain ⟨numeral, n, htext, hn, hnearest⟩ := h
  rw [hshown, Option.some.injEq] at htext
  rw [← (String.append_left_inj "f").mp htext, hread, Option.some.injEq] at hn
  rwa [hn]

/-- A quarter lies halfway between two tenths and goes away from zero. The least number that no
decimal holds, only one above the greatest coefficient, is shown with all its digits. -/
theorem Node.text?_single_nearestTenth_halfwayAndBeyond :
    (Floating.minusQuarter.number? = some (-1 / 4) ∧
      (Node.constant (.single Floating.minusQuarter) .single).text? = some "-0.3f" ∧
      IsNearestTenth (-1 / 4) (-3)) ∧
    (Floating.coefficientLimit.number? = some 79228162514264337593543950336 ∧
      (Node.constant (.single Floating.coefficientLimit) .single).text? =
        some "79228162514264337593543950336.0f" ∧
      IsNearestTenth 79228162514264337593543950336 792281625142643375935439503360) := by
  refine ⟨?_, ?_⟩
  · have hsignificand : Floating.minusQuarter.significand = 2 ^ 23 := by decide
    have hexponent : Floating.minusQuarter.exponent = -25 := by decide
    have hquarter : Floating.minusQuarter.number? = some (-1 / 4) := by
      change some (-(Floating.minusQuarter.significand : ℚ) *
        2 ^ Floating.minusQuarter.exponent) = _
      rw [hsignificand, hexponent]
      norm_num
    have hshown : (Node.constant (.single Floating.minusQuarter) .single).text? =
        some ("-0.3" ++ "f") := by
      rfl
    exact ⟨hquarter, hshown, .of_shown (text?_single_nearestTenth hquarter) hshown (by decide)⟩
  · have hsignificand : Floating.coefficientLimit.significand = 2 ^ 23 := by decide
    have hexponent : Floating.coefficientLimit.exponent = 73 := by decide
    have hlimit : Floating.coefficientLimit.number? = some 79228162514264337593543950336 := by
      change some ((Floating.coefficientLimit.significand : ℚ) *
        2 ^ Floating.coefficientLimit.exponent) = _
      rw [hsignificand, hexponent]
      norm_num
    have hshown : (Node.constant (.single Floating.coefficientLimit) .single).text? =
        some ("79228162514264337593543950336.0" ++ "f") := by
      rfl
    exact ⟨hlimit, hshown, .of_shown (text?_single_nearestTenth hlimit) hshown (by decide)⟩

end RowQuery
