import Mathlib.Data.List.TakeWhile
import RowQuery.Literal
import RowQuery.Moment.Reader
import RowQuery.Proofs.Text.Numeral

/-!
Literals of moments. Between the quotes stand numerals with single characters
between them, and seconds and their fraction only as far as they are needed. A
reader of moments finds the moment again, except for what is finer than a tick.
Texts of moments agree exactly where the moments agree in all that is written,
so a leap second has the text of the second before it.
-/

namespace RowQuery

theorem Text.isBlank_of_isDigit {c : Char} (hc : c.isDigit = true) : isBlank c = false := by
  have hbounds : 48 ≤ c.toNat ∧ c.toNat ≤ 57 := Char.isDigit_iff_toNat.mp hc
  simp only [isBlank, inRanges, blankRanges, List.any_cons, List.any_nil, Bool.or_false,
    Bool.or_eq_false_iff, Bool.and_eq_false_iff, decide_eq_false_iff_not]
  omega

namespace Moment

def ticks (m : Moment) : Nat :=
  m.fractionNanos / 100

/-- A year with at least four characters, of which a sign is one. -/
def literalYear (year : Int) : List Char :=
  if year < 0 then '-' :: Text.padded 3 year.natAbs else Text.padded 4 year.natAbs

def literalFraction (ticks : Nat) : List Char :=
  if ticks = 0 then [] else '.' :: Text.padded 7 ticks

def literalSeconds (second ticks : Nat) : List Char :=
  if second = 0 && ticks = 0 then [] else ':' :: Text.padded 2 second ++ literalFraction ticks

def literalBody (m : Moment) : List Char :=
  calendarText (literalYear m.year) m ++ literalSeconds m.second m.ticks

theorem literal_eq (m : Moment) :
    m.literal = "datetime'" ++ String.ofList m.literalBody ++ "'" := by
  rfl

/-- All that is written is digits and the characters between them. -/
theorem quote_notMem_literalBody (m : Moment) : '\'' ∉ m.literalBody := by
  have hdigits : ∀ width n, '\'' ∉ Text.padded width n := fun width n h =>
    absurd (Text.isDigit_of_mem_padded h) (by decide)
  have hyear : '\'' ∉ literalYear m.year := by
    rw [literalYear]
    split <;> simp [hdigits]
  have hfraction : '\'' ∉ literalFraction m.ticks := by
    rw [literalFraction]
    split <;> simp [hdigits]
  have hseconds : '\'' ∉ literalSeconds m.second m.ticks := by
    rw [literalSeconds]
    split <;> simp [hdigits, hfraction]
  simp [literalBody, calendarText, hdigits, hyear, hseconds]

section Reading

variable {n width : Nat} {rest : List Char} {m : Moment}

/-- A field is read by its width, so that it does not matter what stands behind it. -/
theorem readNumber?_padded (hwidth : 0 < width) (hn : n < 10 ^ width) (rest : List Char) :
    readNumber? width (Text.padded width n ++ rest) = some (n, rest) := by
  have hlength := Text.length_padded hwidth hn
  have htake : (Text.padded width n ++ rest).take width = Text.padded width n :=
    List.take_left' hlength
  have hdrop : (Text.padded width n ++ rest).drop width = rest := List.drop_left' hlength
  have hne : (Text.padded width n).isEmpty = false := by
    rw [List.isEmpty_eq_false_iff, ← List.length_pos_iff, hlength]
    exact hwidth
  have hdigits := Text.takeWhile_isDigit_padded width n Text.endsNumeral_nil
  rw [List.append_nil] at hdigits
  rw [readNumber?, htake, hdigits]
  simp only [hne, Bool.false_eq_true, if_false, Text.digitsValue_padded, hlength, hdrop]

theorem trimStart_padded (width n : Nat) (rest : List Char) :
    Text.trimStart (Text.padded width n ++ rest) = Text.padded width n ++ rest := by
  obtain ⟨c, cs, hcs, hc⟩ := Text.exists_padded_eq_cons width n
  rw [hcs, List.cons_append, Text.trimStart,
    List.dropWhile_cons_of_neg (by simp [Text.isBlank_of_isDigit hc])]

theorem readField?_padded (hwidth : 0 < width) (hn : n < 10 ^ width) (rest : List Char) :
    readField? width (Text.padded width n ++ rest) = some (n, rest) := by
  rw [readField?, trimStart_padded, readNumber?_padded hwidth hn]

theorem readYear?_padded (hn : n < 10 ^ 4) (rest : List Char) :
    readYear? (Text.padded 4 n ++ rest) = some ((n : Int), rest) := by
  have hnumber := readNumber?_padded (by decide) hn rest
  rw [readYear?, trimStart_padded]
  obtain ⟨c, cs, hcs, hc⟩ := Text.exists_padded_eq_cons 4 n
  rw [hcs, List.cons_append] at hnumber ⊢
  split
  · rename_i heq
    cases heq
    cases hc
  · rename_i heq
    cases heq
    cases hc
  · rw [hnumber, Option.map_some]

theorem isValid_bounds (hm : m.isValid = true) :
    m.month < 10 ^ 2 ∧ m.day < 10 ^ 2 ∧ m.hour < 10 ^ 2 ∧ m.minute < 10 ^ 2 ∧ m.second < 60 := by
  have hdays : daysInMonth m.year m.month ≤ 31 := by
    unfold daysInMonth
    split
    · split <;> decide
    · split <;> decide
  simp only [isValid, Bool.and_eq_true, decide_eq_true_eq] at hm
  obtain ⟨⟨⟨⟨⟨⟨⟨⟨⟨-, -⟩, -⟩, hmonth⟩, -⟩, hday⟩, hhour⟩, hminute⟩, hsecond⟩, -⟩ := hm
  exact ⟨by omega, by omega, by omega, by omega, hsecond⟩

/-- The fields down to the minute are read whatever stands behind them. -/
theorem readMinutes?_calendarText (hm : m.isValid = true) (hyear : 0 ≤ m.year)
    (hyear' : m.year ≤ 9999) (rest : List Char) :
    readMinutes? (calendarText (literalYear m.year) m ++ rest) =
      some ({ m with second := 0, nanosecond := 0 }, rest) := by
  obtain ⟨hmonth, hday, hhour, hminute, -⟩ := isValid_bounds hm
  have hnumber : ((m.year.natAbs : Nat) : Int) = m.year := by omega
  have hread := readYear?_padded (n := m.year.natAbs) (by omega)
  rw [hnumber] at hread
  rw [literalYear, if_neg (by omega)]
  simp only [calendarText, List.append_assoc, List.cons_append, readMinutes?, hread, expect?,
    if_true, readField?_padded Nat.zero_lt_two hmonth, readField?_padded Nat.zero_lt_two hday,
    readField?_padded Nat.zero_lt_two hhour, readField?_padded Nat.zero_lt_two hminute,
    Option.bind_eq_bind, Option.bind_some, Option.pure_def]

/-- Seven digits are shown of nine that can be read. -/
theorem readFraction?_literalFraction {t : Nat} (ht : t < 10 ^ 7) :
    readFraction? (literalFraction t) = some (t * 100, []) := by
  by_cases hzero : t = 0
  · subst hzero
    rfl
  · have hlength := Text.length_padded (by decide) ht
    have htake : (Text.padded 7 t).take 9 = Text.padded 7 t :=
      List.take_of_length_le (by omega)
    have hdigits := Text.takeWhile_isDigit_padded 7 t Text.endsNumeral_nil
    rw [List.append_nil] at hdigits
    have hbehind : (Text.padded 7 t).dropWhile Text.isDigit = [] := by
      rw [List.dropWhile_eq_nil_iff]
      intro c hc
      rw [Text.isDigit_eq, Text.isDigit_of_mem_padded hc]
    have hne : (Text.padded 7 t).isEmpty = false := by
      rw [List.isEmpty_eq_false_iff, ← List.length_pos_iff]
      omega
    rw [literalFraction, if_neg hzero, readFraction?, htake, hdigits]
    simp only [hne, Bool.false_eq_true, if_false, Text.digitsValue_padded, hlength, hbehind]
    rfl

/-- Seconds and ticks are read back, where either is written. -/
theorem readSecond?_literalSeconds {s t : Nat} (hne : ¬ (s = 0 ∧ t = 0)) (hs : s < 60)
    (ht : t < 10 ^ 7) : readSecond? (literalSeconds s t) = some ((s, t * 100), []) := by
  have hshown : (s = 0 && t = 0) = false := by simpa using hne
  have hfield := readField?_padded Nat.zero_lt_two (n := s) (by omega) (literalFraction t)
  have hleap : s ≠ 60 := by omega
  simp only [literalSeconds, hshown, Bool.false_eq_true, if_false, List.cons_append, readSecond?,
    expect?, if_true, hfield, readFraction?_literalFraction ht, if_neg hleap, Option.bind_eq_bind,
    Option.bind_some, Option.pure_def]

/-- A fraction that is cut down to ticks leaves a valid moment. -/
theorem isValid_cut (hm : m.isValid = true) (hleap : m.nanosecond < nanosPerSecond) :
    ({ m with nanosecond := m.nanosecond / 100 * 100 } : Moment).isValid = true := by
  have hcut : m.nanosecond / 100 * 100 < nanosPerSecond := by omega
  simp only [isValid, Bool.and_eq_true] at hm ⊢
  exact ⟨hm.1, by simp [hcut]⟩

theorem ticks_of_lt (hleap : m.nanosecond < nanosPerSecond) : m.ticks = m.nanosecond / 100 := by
  rw [ticks, fractionNanos, Nat.mod_eq_of_lt hleap]

/-- A moment is read back from its literal, cut off to whole ticks. -/
theorem read?_literalBody (hm : m.isValid = true) (hyear : 0 ≤ m.year) (hyear' : m.year ≤ 9999)
    (hleap : m.nanosecond < nanosPerSecond) :
    read? (String.ofList m.literalBody) =
      some { m with nanosecond := m.nanosecond / 100 * 100 } := by
  have hvalid := isValid_cut hm hleap
  have hminutes := readMinutes?_calendarText hm hyear hyear' (literalSeconds m.second m.ticks)
  have hticks := ticks_of_lt hleap
  by_cases hzero : m.second = 0 ∧ m.ticks = 0
  · -- the text ends with the minute
    have hend : literalSeconds m.second m.ticks = [] := by
      simp [literalSeconds, hzero.1, hzero.2]
    have hsame : ({ m with second := 0, nanosecond := 0 } : Moment) =
        { m with nanosecond := m.nanosecond / 100 * 100 } := by
      rw [← hticks, hzero.2]
      cases m
      simpa using hzero.1.symm
    rw [hend, hsame] at hminutes
    simp only [read?, String.toList_ofList, literalBody, hend, hminutes, Option.bind_eq_bind,
      Option.bind_some, List.isEmpty_nil, if_true, hvalid]
  · have hsecond : m.second < 60 := (isValid_bounds hm).2.2.2.2
    have hbound : m.ticks < 10 ^ 7 := by
      rw [hticks]
      unfold nanosPerSecond at hleap
      omega
    have hread := readSecond?_literalSeconds hzero hsecond hbound
    have hne : (literalSeconds m.second m.ticks).isEmpty = false := by
      have hshown : (m.second = 0 && m.ticks = 0) = false := by simpa using hzero
      simp [literalSeconds, hshown]
    rw [hticks] at hread hne hminutes
    simp only [read?, String.toList_ofList, literalBody, hticks, hminutes, Option.bind_eq_bind,
      Option.bind_some, hne, Bool.false_eq_true, if_false, hread, List.isEmpty_nil, Bool.true_and,
      hvalid, if_true]

end Reading

section Distinction

variable {rest rest' : List Char}

theorem endsNumeral_literalFraction (t : Nat) : Text.EndsNumeral (literalFraction t) := by
  rw [literalFraction]
  split
  · exact Text.endsNumeral_nil
  · exact Text.endsNumeral_cons rfl _

theorem endsNumeral_literalSeconds (s t : Nat) : Text.EndsNumeral (literalSeconds s t) := by
  rw [literalSeconds]
  split
  · exact Text.endsNumeral_nil
  · exact Text.endsNumeral_cons rfl _

/-- A year is told by its sign and its digits, whatever their number. -/
theorem literalYear_append_inj {y y' : Int} (hrest : Text.EndsNumeral rest)
    (hrest' : Text.EndsNumeral rest') (h : literalYear y ++ rest = literalYear y' ++ rest') :
    y = y' ∧ rest = rest' := by
  have hsign : ∀ n cs ds, '-' :: cs ≠ Text.padded 4 n ++ ds := by
    intro n cs ds heq
    obtain ⟨c, cs', hcs', hc⟩ := Text.exists_padded_eq_cons 4 n
    rw [hcs', List.cons_append, List.cons.injEq] at heq
    rw [← heq.1] at hc
    cases hc
  unfold literalYear at h
  split at h
  · split at h
    · rw [List.cons_append, List.cons_append, List.cons.injEq] at h
      obtain ⟨hnumber, hrest⟩ := Text.padded_append_inj hrest hrest' h.2
      exact ⟨by omega, hrest⟩
    · exact absurd h (hsign _ _ _)
  · split at h
    · exact absurd h.symm (hsign _ _ _)
    · obtain ⟨hnumber, hrest⟩ := Text.padded_append_inj hrest hrest' h
      exact ⟨by omega, hrest⟩

/-- Trailing zeros are cut off, yet no two fractions are written alike. -/
theorem literalFraction_inj {t t' : Nat} (h : literalFraction t = literalFraction t') : t = t' := by
  unfold literalFraction at h
  split at h
  · split at h
    · omega
    · cases h
  · split at h
    · cases h
    · rw [List.cons.injEq] at h
      have hticks : Text.padded 7 t ++ [] = Text.padded 7 t' ++ [] := by simpa using h.2
      exact (Text.padded_append_inj Text.endsNumeral_nil Text.endsNumeral_nil hticks).1

theorem literalSeconds_inj {s s' t t' : Nat} (h : literalSeconds s t = literalSeconds s' t') :
    s = s' ∧ t = t' := by
  unfold literalSeconds at h
  split at h
  · rename_i hzero
    split at h
    · rename_i hzero'
      simp only [Bool.and_eq_true, decide_eq_true_eq] at hzero hzero'
      omega
    · cases h
  · split at h
    · cases h
    · rw [List.cons_append, List.cons_append, List.cons.injEq] at h
      obtain ⟨hsecond, hfraction⟩ := Text.padded_append_inj (endsNumeral_literalFraction t)
        (endsNumeral_literalFraction t') h.2
      exact ⟨hsecond, literalFraction_inj hfraction⟩

/-- Moments with the same literal agree in every field down to the tick. -/
theorem literalBody_inj {m m' : Moment} (h : m.literalBody = m'.literalBody) :
    m.year = m'.year ∧ m.month = m'.month ∧ m.day = m'.day ∧ m.hour = m'.hour ∧
      m.minute = m'.minute ∧ m.second = m'.second ∧ m.ticks = m'.ticks := by
  have hdash : ∀ rest, Text.EndsNumeral ('-' :: rest) := Text.endsNumeral_cons rfl
  have hletter : ∀ rest, Text.EndsNumeral ('T' :: rest) := Text.endsNumeral_cons rfl
  have hcolon : ∀ rest, Text.EndsNumeral (':' :: rest) := Text.endsNumeral_cons rfl
  simp only [literalBody, calendarText, List.append_assoc, List.cons_append] at h
  obtain ⟨hyear, h⟩ := literalYear_append_inj (hdash _) (hdash _) h
  obtain ⟨hmonth, h⟩ := Text.padded_append_inj (hdash _) (hdash _) (List.cons.inj h).2
  obtain ⟨hday, h⟩ := Text.padded_append_inj (hletter _) (hletter _) (List.cons.inj h).2
  obtain ⟨hhour, h⟩ := Text.padded_append_inj (hcolon _) (hcolon _) (List.cons.inj h).2
  obtain ⟨hminute, h⟩ := Text.padded_append_inj (endsNumeral_literalSeconds _ _)
    (endsNumeral_literalSeconds _ _) (List.cons.inj h).2
  obtain ⟨hsecond, hticks⟩ := literalSeconds_inj h
  exact ⟨hyear, hmonth, hday, hhour, hminute, hsecond, hticks⟩

theorem literal_eq_literal_iff {m m' : Moment} :
    m.literal = m'.literal ↔ m.literalBody = m'.literalBody := by
  rw [literal_eq, literal_eq, String.append_left_inj, String.append_right_inj, String.ofList_inj]

end Distinction

/-- What stands between the quotes of a literal is read as the moment with its fraction cut down to
ticks, where the year has four digits and the second is no leap second. Any two moments have the
same literal exactly if they agree in all fields down to the tick. -/
theorem read?_literal :
    (∀ m : Moment, m.isValid = true → 0 ≤ m.year → m.year ≤ 9999 →
      m.nanosecond < nanosPerSecond →
      ∃ inner, m.literal = "datetime'" ++ inner ++ "'" ∧ '\'' ∉ inner.toList ∧
        read? inner = some { m with nanosecond := m.nanosecond / 100 * 100 }) ∧
    ∀ m m' : Moment, m.literal = m'.literal ↔
      m.year = m'.year ∧ m.month = m'.month ∧ m.day = m'.day ∧ m.hour = m'.hour ∧
        m.minute = m'.minute ∧ m.second = m'.second ∧
        m.nanosecond % nanosPerSecond / 100 = m'.nanosecond % nanosPerSecond / 100 := by
  constructor
  · intro m hm hyear hyear' hleap
    refine ⟨_, m.literal_eq, ?_, read?_literalBody hm hyear hyear' hleap⟩
    rw [String.toList_ofList]
    exact m.quote_notMem_literalBody
  · intro m m'
    rw [literal_eq_literal_iff]
    constructor
    · exact literalBody_inj
    · rintro ⟨hyear, hmonth, hday, hhour, hminute, hsecond, hticks⟩
      have hticks : m.ticks = m'.ticks := hticks
      simp only [literalBody, calendarText, hyear, hmonth, hday, hhour, hminute, hsecond, hticks]

/-- The last moment of a day, and the end of a leap second that has its text. -/
def lastTick : Moment :=
  ⟨1999, 12, 31, 23, 59, 59, 999999999⟩

def lastLeapTick : Moment :=
  ⟨1999, 12, 31, 23, 59, 59, 1999999999⟩

theorem read?_literal_lastTick :
    lastTick.isValid = true ∧ lastTick.nanosecond < nanosPerSecond ∧
      lastTick.literal = "datetime'1999-12-31T23:59:59.9999999'" ∧
      (∃ inner, lastTick.literal = "datetime'" ++ inner ++ "'" ∧ '\'' ∉ inner.toList ∧
        read? inner = some { lastTick with nanosecond := 999999900 }) ∧
      lastTick.literal = lastLeapTick.literal := by
  have hvalid : lastTick.isValid = true := by decide
  have hleap : lastTick.nanosecond < nanosPerSecond := by decide
  exact ⟨hvalid, hleap, by decide, read?_literal.1 _ hvalid (by decide) (by decide) hleap,
    (read?_literal.2 _ _).mpr (by decide)⟩

end Moment

end RowQuery
