import Mathlib.Data.List.Basic
import RowQuery.Proofs.Text.AsciiCase
import RowQuery.Proofs.Text.Hex

/-!
Which texts are read as bytes. A pair of characters is a byte if it is a
hexadecimal numeral below 256, so a plus sign passes in front of a single digit.
The bytes, written in upper case, are the text again with zeros for the plus
signs; without any the texts are those of hexadecimal digits in even number.
-/

namespace RowQuery.Text

def isHexDigit (c : Char) : Bool :=
  (hexDigit? c).isSome

def IsHexText (cs : List Char) : Prop :=
  cs.length % 2 = 0 ∧ ∀ c ∈ cs, isHexDigit c = true

/-- Pairs of hexadecimal digits, in which a plus sign may stand for the first digit. -/
inductive SignedPairs : List Char → Prop
  | nil : SignedPairs []
  | cons {high low : Char} {rest : List Char} (hhigh : high = '+' ∨ isHexDigit high = true)
      (hlow : isHexDigit low = true) (hrest : SignedPairs rest) :
      SignedPairs (high :: low :: rest)

/-- The upper case of a digit, where a plus sign counts as zero. -/
def upperDigit (c : Char) : Char :=
  if c = '+' then '0' else c.toUpper

section Reading

variable {high low c : Char} {n : Nat} {cs : List Char} {bytes : List UInt8}

theorem toNat_lt_of_hexDigit? (h : hexDigit? c = some n) : c.toNat < 0x80 := by
  have hle : ∀ d : Char, d.toNat < 0x80 → c ≤ d → c.toNat < 0x80 := fun d hd hcd =>
    Nat.lt_of_le_of_lt hcd hd
  simp only [hexDigit?, Bool.and_eq_true, decide_eq_true_eq] at h
  split at h
  · rename_i hc
    exact hle '9' (by decide) hc.2
  · split at h
    · rename_i hc
      exact hle 'f' (by decide) hc.2
    · split at h
      · rename_i hc
        exact hle 'F' (by decide) hc.2
      · cases h

/-- A hexadecimal digit is a number below sixteen, which is written as the digit in upper case. -/
theorem upperHexDigit_of_hexDigit? (h : hexDigit? c = some n) :
    n < 16 ∧ upperHexDigit n = upperDigit c :=
  forall_ascii (P := fun c => ∀ n ∈ hexDigit? c, n < 16 ∧ upperHexDigit n = upperDigit c)
    (by decide) (toNat_lt_of_hexDigit? h) n h

theorem byteHexUpper_ofNat {h l : Nat} (hh : h < 16) (hl : l < 16) :
    byteHexUpper (UInt8.ofNat (h * 16 + l)) = [upperHexDigit h, upperHexDigit l] := by
  have hbyte : (UInt8.ofNat (h * 16 + l)).toNat = h * 16 + l := by
    rw [UInt8.toNat_ofNat']
    omega
  have hhigh : (h * 16 + l) / 16 = h := by omega
  have hlow : (h * 16 + l) % 16 = l := by omega
  rw [byteHexUpper, hbyte, hhigh, hlow]

/-- A pair that is read has a digit or a plus sign in front of a digit, and shows its byte in upper
case, the plus sign as a zero. -/
theorem readHexPair?_eq_some (h : readHexPair? high low = some n) :
    (high = '+' ∨ isHexDigit high = true) ∧ isHexDigit low = true ∧
      byteHexUpper (UInt8.ofNat n) = [upperDigit high, upperDigit low] := by
  unfold readHexPair? at h
  split at h
  · rename_i hplus
    obtain ⟨hn, hlow⟩ := upperHexDigit_of_hexDigit? h
    have hbyte := byteHexUpper_ofNat (h := 0) (by decide) hn
    rw [Nat.zero_mul, Nat.zero_add] at hbyte
    rw [hbyte, hplus, hlow]
    exact ⟨Or.inl rfl, by rw [isHexDigit, h]; rfl, rfl⟩
  · obtain ⟨a, ha, h⟩ := Option.bind_eq_some_iff.mp h
    obtain ⟨b, hb, h⟩ := Option.bind_eq_some_iff.mp h
    cases h
    obtain ⟨hn, hhigh⟩ := upperHexDigit_of_hexDigit? ha
    obtain ⟨hm, hlow⟩ := upperHexDigit_of_hexDigit? hb
    rw [byteHexUpper_ofNat hn hm, hhigh, hlow, isHexDigit, isHexDigit, ha, hb]
    exact ⟨Or.inr rfl, rfl, rfl⟩

theorem exists_readHexPair? (hhigh : high = '+' ∨ isHexDigit high = true)
    (hlow : isHexDigit low = true) : ∃ n, readHexPair? high low = some n := by
  obtain ⟨l, hl⟩ := Option.isSome_iff_exists.mp hlow
  rw [readHexPair?]
  split
  · exact ⟨l, hl⟩
  · rename_i hplus
    obtain ⟨h, hh⟩ := Option.isSome_iff_exists.mp (hhigh.resolve_left hplus)
    exact ⟨h * 16 + l, by simp [hh, hl]⟩

/-- What is read is made of such pairs, and its bytes are shown by them. -/
theorem readHexPairs_eq_ok (h : readHexPairs cs = .ok bytes) :
    SignedPairs cs ∧ bytes.flatMap byteHexUpper = cs.map upperDigit := by
  induction cs using readHexPairs.induct generalizing bytes with
  | case1 =>
    cases h
    exact ⟨.nil, rfl⟩
  | case2 c => cases h
  | case3 high low rest hnone => simp [readHexPairs, hnone] at h
  | case4 high low rest n hn ih =>
    rw [readHexPairs, hn] at h
    dsimp only at h
    cases hrest : readHexPairs rest with
    | error e => simp [hrest, Except.map] at h
    | ok others =>
      rw [hrest] at h
      cases h
      obtain ⟨hhigh, hlow, hbyte⟩ := readHexPair?_eq_some hn
      obtain ⟨hpairs, hothers⟩ := ih hrest
      refine ⟨.cons hhigh hlow hpairs, ?_⟩
      rw [List.flatMap_cons, hbyte, hothers]
      rfl

theorem SignedPairs.exists_readHexPairs (h : SignedPairs cs) :
    ∃ bytes, readHexPairs cs = .ok bytes := by
  induction h with
  | nil => exact ⟨[], rfl⟩
  | cons hhigh hlow _ ih =>
    obtain ⟨n, hn⟩ := exists_readHexPair? hhigh hlow
    obtain ⟨bytes, hbytes⟩ := ih
    exact ⟨UInt8.ofNat n :: bytes, by rw [readHexPairs, hn, hbytes]; rfl⟩

theorem ascii_of_isHexDigit (h : isHexDigit c = true) : c.toNat < 0x80 := by
  obtain ⟨n, hn⟩ := Option.isSome_iff_exists.mp h
  exact toNat_lt_of_hexDigit? hn

/-- Pairs pass the check of length and alphabet. -/
theorem SignedPairs.length_and_alphabet (h : SignedPairs cs) :
    cs.length % 2 = 0 ∧ ∀ c ∈ cs, c.toNat < 0x80 := by
  induction h with
  | nil => simp
  | @cons high low rest hhigh hlow _ ih =>
    have hascii : high.toNat < 0x80 := by
      rcases hhigh with rfl | hhigh
      · decide
      · exact ascii_of_isHexDigit hhigh
    simp only [List.length_cons, List.forall_mem_cons]
    exact ⟨by omega, hascii, ascii_of_isHexDigit hlow, ih.2⟩

theorem readHex_eq_ok {s : String} (h : readHex s = .ok bytes) :
    SignedPairs s.toList ∧ hexUpper bytes = String.ofList (s.toList.map upperDigit) := by
  unfold readHex at h
  dsimp only at h
  split at h
  · cases h
  · obtain ⟨hpairs, hdigits⟩ := readHexPairs_eq_ok h
    exact ⟨hpairs, by rw [hexUpper, hdigits]⟩

/-- Such pairs are ASCII and of even number, so that the reader cuts them as they are. -/
theorem SignedPairs.readHex_eq {s : String} (h : SignedPairs s.toList) :
    readHex s = readHexPairs s.toList := by
  obtain ⟨hlength, hascii⟩ := h.length_and_alphabet
  rw [readHex, if_neg]
  simpa [hlength] using hascii

/-- The reader accepts exactly the pairs whose first character may be a plus sign. -/
theorem exists_readHex_iff {s : String} :
    (∃ bytes, readHex s = .ok bytes) ↔ SignedPairs s.toList := by
  constructor
  · rintro ⟨bytes, h⟩
    exact (readHex_eq_ok h).1
  · intro h
    rw [h.readHex_eq]
    exact h.exists_readHexPairs

theorem readHexPairs_of_hexBytes? (h : hexBytes? cs = some bytes) :
    readHexPairs cs = .ok bytes := by
  induction cs using hexBytes?.induct generalizing bytes with
  | case1 =>
    cases h
    rfl
  | case2 c => cases h
  | case3 high low rest ih =>
    obtain ⟨a, ha, h⟩ := Option.bind_eq_some_iff.mp h
    obtain ⟨b, hb, h⟩ := Option.bind_eq_some_iff.mp h
    obtain ⟨others, hothers, h⟩ := Option.bind_eq_some_iff.mp h
    cases h
    have hplus : high ≠ '+' := by
      rintro rfl
      cases ha
    simp [readHexPairs, readHexPair?, hplus, ha, hb, ih hothers, Except.map]

/-- The digits of bytes are read as these bytes. -/
theorem readHex_hexUpper (bytes : List UInt8) : readHex (hexUpper bytes) = .ok bytes := by
  have hread := readHexPairs_of_hexBytes? (hexBytes?_hexUpper bytes)
  rw [(readHexPairs_eq_ok hread).1.readHex_eq, hread]

/-- The texts of hexadecimal digits are the pairs without a plus sign. -/
theorem isHexText_iff : IsHexText cs ↔ SignedPairs cs ∧ '+' ∉ cs := by
  constructor
  · rintro ⟨hlength, hdigits⟩
    refine ⟨?_, fun hplus => absurd (hdigits '+' hplus) (by decide)⟩
    induction cs using hexBytes?.induct with
    | case1 => exact .nil
    | case2 c => cases hlength
    | case3 high low rest ih =>
      simp only [List.forall_mem_cons, List.length_cons] at hlength hdigits
      exact .cons (Or.inr hdigits.1) hdigits.2.1 (ih (by omega) hdigits.2.2)
  · rintro ⟨h, hplus⟩
    refine ⟨h.length_and_alphabet.1, ?_⟩
    induction h with
    | nil => simp
    | cons hhigh hlow _ ih =>
      simp only [List.mem_cons, not_or] at hplus
      simp only [List.forall_mem_cons]
      exact ⟨hhigh.resolve_left (Ne.symm hplus.1), hlow, ih hplus.2.2⟩

theorem upperChar_of_isHexDigit (h : isHexDigit c = true) : upperChar c = [upperDigit c] := by
  have hplus : c ≠ '+' := by
    rintro rfl
    exact absurd h (by decide)
  rw [upperChar, if_pos (ascii_of_isHexDigit h), upperDigit, if_neg hplus]

theorem upper_of_isHexText {s : String} (h : IsHexText s.toList) :
    upper s = String.ofList (s.toList.map upperDigit) := by
  rw [upper, List.map_eq_flatMap]
  congr 1
  exact List.flatMap_congr fun c hc => upperChar_of_isHexDigit (h.2 c hc)

end Reading

end RowQuery.Text
