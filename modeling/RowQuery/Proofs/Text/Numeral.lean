import Mathlib.Data.List.Basic
import RowQuery.Text.Numeral

/-!
Numerals read back. Every prefix of a numeral is the numeral of a number
nearer to zero, so reading the numeral of a number within bounds that hold
zero meets no excess on the way. A numeral with leading zeros is the number of
its digits, and ends in a text where the digits end.
-/

namespace RowQuery.Text

variable {least greatest : Int} {negative : Bool} {cs : List Char}

def signed (negative : Bool) (n : Nat) : Int :=
  if negative then -n else n

theorem digit?_digitChar : ∀ d < 10, digit? (Nat.digitChar d) = some d := by
  decide

theorem isDigit_of_mem_natDigits {n : Nat} {c : Char} (hc : c ∈ natDigits n) :
    c.isDigit = true :=
  Nat.isDigit_of_mem_toDigits (by decide) (by decide) hc

theorem natDigits_ne_nil (n : Nat) : natDigits n ≠ [] :=
  Nat.toDigits_ne_nil

/-- Digits are read from left to right, the number so far in hand. -/
theorem readDigits_append (m : Int) (cs ds : List Char) :
    readDigits least greatest negative m (cs ++ ds) =
      readDigits least greatest negative m cs >>= fun k =>
        readDigits least greatest negative k ds := by
  induction cs generalizing m with
  | nil => rfl
  | cons c cs ih =>
    simp only [List.cons_append, readDigits, ih]
    cases digit? c with
    | none => rfl
    | some d =>
      dsimp only
      generalize (if negative = true then m * 10 - (d : Int) else m * 10 + d) = next
      by_cases hsmall : next < least
      · rw [if_pos hsmall, if_pos hsmall]
        rfl
      · rw [if_neg hsmall, if_neg hsmall]
        by_cases hlarge : greatest < next
        · rw [if_pos hlarge, if_pos hlarge]
          rfl
        · rw [if_neg hlarge, if_neg hlarge]

/-- One digit more makes a number ten times as large, and the digit larger. -/
theorem readDigits_digit {m d : Nat} (hd : d < 10) (hleast : least ≤ signed negative (m * 10 + d))
    (hgreatest : signed negative (m * 10 + d) ≤ greatest) :
    readDigits least greatest negative (signed negative m) [Nat.digitChar d] =
      .ok (signed negative (m * 10 + d)) := by
  have hnext : (if negative then signed negative m * 10 - d else signed negative m * 10 + d) =
      signed negative (m * 10 + d) := by
    cases negative with
    | true =>
      simp only [signed, if_true]
      omega
    | false =>
      simp only [signed, Bool.false_eq_true, if_false]
      omega
  simp only [readDigits, digit?_digitChar d hd, hnext, if_neg (Int.not_lt.mpr hleast),
    if_neg (Int.not_lt.mpr hgreatest)]

/-- A numeral within the bounds is read back: what the digits before the last one write lies between
zero and the whole, so within the bounds as well. -/
theorem readDigits_natDigits (negative : Bool) (n : Nat) (hleast : least ≤ 0)
    (hgreatest : 0 ≤ greatest) (hn : least ≤ signed negative n)
    (hn' : signed negative n ≤ greatest) :
    readDigits least greatest negative 0 (natDigits n) = .ok (signed negative n) := by
  induction n using Nat.strongRecOn with
  | ind n ih =>
    by_cases hsmall : n < 10
    · have hzero : signed negative 0 = 0 := by cases negative <;> rfl
      have hnumber : 0 * 10 + n = n := by omega
      rw [← hnumber] at hn hn'
      have hdigit := readDigits_digit hsmall hn hn'
      rwa [hzero, hnumber, ← Nat.toDigits_of_lt_base hsmall] at hdigit
    · have hsplit : n / 10 * 10 + n % 10 = n := Nat.div_add_mod' n 10
      have hnear : least ≤ signed negative (n / 10) ∧ signed negative (n / 10) ≤ greatest := by
        cases negative with
        | true =>
          simp only [signed, if_true] at hn hn' ⊢
          omega
        | false =>
          simp only [signed, Bool.false_eq_true, if_false] at hn hn' ⊢
          omega
      have hprefix := ih (n / 10) (by omega) hnear.1 hnear.2
      rw [natDigits] at hprefix
      rw [natDigits, Nat.toDigits_of_base_le (by decide) (by omega), readDigits_append, hprefix]
      rw [← hsplit] at hn hn'
      have hdigit := readDigits_digit (Nat.mod_lt n (by decide)) hn hn'
      rwa [hsplit] at hdigit

theorem readInt_digits (hne : cs ≠ []) (hcs : ∀ c ∈ cs, c.isDigit = true) :
    readInt least greatest (String.ofList cs) = readDigits least greatest false 0 cs := by
  obtain ⟨c, rest, rfl⟩ := List.exists_cons_of_ne_nil hne
  have hplus : c ≠ '+' := by
    rintro rfl
    exact absurd (hcs '+' List.mem_cons_self) (by decide)
  have hminus : c ≠ '-' := by
    rintro rfl
    exact absurd (hcs '-' List.mem_cons_self) (by decide)
  simp [readInt, hplus, hminus]

theorem readInt_minus_digits (hne : cs ≠ []) (hleast : least < 0) :
    readInt least greatest (String.ofList ('-' :: cs)) = readDigits least greatest true 0 cs := by
  obtain ⟨c, rest, rfl⟩ := List.exists_cons_of_ne_nil hne
  simp [readInt, hleast]

/-- A number within bounds is read back from its numeral. -/
theorem readInt_intText {n : Int} (hleast : least ≤ 0) (hgreatest : 0 ≤ greatest)
    (hn : least ≤ n) (hn' : n ≤ greatest) : readInt least greatest (intText n) = .ok n := by
  rw [intText, intDigits]
  by_cases hneg : n < 0
  · have hsigned : signed true n.natAbs = n := by
      simp only [signed, if_true]
      omega
    rw [if_pos hneg, readInt_minus_digits (natDigits_ne_nil _) (by omega),
      readDigits_natDigits true _ hleast hgreatest (by rwa [hsigned]) (by rwa [hsigned]), hsigned]
  · have hsigned : signed false n.natAbs = n := by
      simp only [signed, Bool.false_eq_true, if_false]
      omega
    rw [if_neg hneg, readInt_digits (natDigits_ne_nil _) fun c hc => isDigit_of_mem_natDigits hc,
      readDigits_natDigits false _ hleast hgreatest (by rwa [hsigned]) (by rwa [hsigned]), hsigned]

section Padded

variable {width m n : Nat} {rest rest' : List Char}

theorem isDigit_eq (c : Char) : isDigit c = c.isDigit := by
  rw [isDigit, digit?, Bool.eq_iff_iff]
  split <;> simp_all [Char.isDigit, Char.le_def]

theorem digit?_of_isDigit {c : Char} (hc : c.isDigit = true) :
    digit? c = some (c.toNat - '0'.toNat) := by
  rw [← isDigit_eq, isDigit, digit?] at hc
  rw [digit?]
  split at hc
  · rename_i h
    rw [if_pos h]
  · cases hc

theorem digitsValue_eq_ofDigitChars (hcs : ∀ c ∈ cs, c.isDigit = true) :
    digitsValue cs = Nat.ofDigitChars 10 cs 0 := by
  rw [digitsValue, Nat.ofDigitChars_eq_foldl]
  refine List.foldl_ext _ _ _ fun n c hc => ?_
  rw [digit?_of_isDigit (hcs c hc), Option.getD_some, Nat.mul_comm]

theorem isDigit_of_mem_padded {c : Char} (hc : c ∈ padded width n) : c.isDigit = true := by
  rw [padded, padLeft, List.mem_append] at hc
  rcases hc with hzero | hdigit
  · rw [List.eq_of_mem_replicate hzero]
    decide
  · exact isDigit_of_mem_natDigits hdigit

theorem digitsValue_padded (width n : Nat) : digitsValue (padded width n) = n := by
  rw [digitsValue_eq_ofDigitChars fun c hc => isDigit_of_mem_padded hc, padded, padLeft,
    Nat.ofDigitChars_append, Nat.ofDigitChars_replicate_zero]
  exact Nat.ofDigitChars_ten_toDigits

/-- Padding gives the width that is asked for, as long as the number has room in it. -/
theorem length_padded (hwidth : 0 < width) (hn : n < 10 ^ width) :
    (padded width n).length = width := by
  have hlength : (natDigits n).length ≤ width :=
    (Nat.length_toDigits_le_iff (by decide) hwidth).mpr hn
  rw [padded, padLeft, List.length_append, List.length_replicate]
  omega

/-- The first character of a numeral is a digit. -/
theorem exists_padded_eq_cons (width n : Nat) :
    ∃ c cs, padded width n = c :: cs ∧ c.isDigit = true := by
  have hne : padded width n ≠ [] := by simp [padded, padLeft, natDigits_ne_nil]
  obtain ⟨c, cs, hcs⟩ := List.exists_cons_of_ne_nil hne
  have hmem : c ∈ padded width n := by simp [hcs]
  exact ⟨c, cs, hcs, isDigit_of_mem_padded hmem⟩

def EndsNumeral (rest : List Char) : Prop :=
  ∀ c ∈ rest.head?, c.isDigit = false

theorem endsNumeral_nil : EndsNumeral [] := by
  intro c hc
  cases hc

theorem endsNumeral_cons {c : Char} (hc : c.isDigit = false) (rest : List Char) :
    EndsNumeral (c :: rest) := by
  intro d hd
  cases hd
  exact hc

theorem takeWhile_isDigit_padded (width n : Nat) (hrest : EndsNumeral rest) :
    (padded width n ++ rest).takeWhile isDigit = padded width n := by
  have hdigits : ∀ c ∈ padded width n, isDigit c = true := fun c hc => by
    rw [isDigit_eq, isDigit_of_mem_padded hc]
  rw [List.takeWhile_append_of_pos hdigits]
  cases rest with
  | nil => simp
  | cons c rest => simp [isDigit_eq, hrest c rfl]

/-- A numeral can be told from what stands behind it. -/
theorem padded_append_inj (hrest : EndsNumeral rest) (hrest' : EndsNumeral rest')
    (h : padded width m ++ rest = padded width n ++ rest') : m = n ∧ rest = rest' := by
  have hdigits := congrArg (List.takeWhile isDigit) h
  rw [takeWhile_isDigit_padded width m hrest, takeWhile_isDigit_padded width n hrest'] at hdigits
  rw [hdigits] at h
  have hvalue := congrArg digitsValue hdigits
  rw [digitsValue_padded, digitsValue_padded] at hvalue
  exact ⟨hvalue, List.append_cancel_left h⟩

end Padded

end RowQuery.Text
