import RowQuery.Command.Constant
import RowQuery.Proofs.Literal.Reading
import RowQuery.Proofs.Text.HexPairs

/-!
Constants as text against the text that values are displayed as. Beside the word
null every text is left to the reader of its type. The reader of bytes takes more
than the digits that bytes are displayed as; for the types that are read back
from literals, what is displayed is read as the value that it stands for.
-/

namespace RowQuery

namespace Value

variable {text : String} {t : EdmType} {nullable : Bool} {v : Value}

/-- Only the word null is not left to the reader of the type. -/
theorem readConstant_eq_ok_iff (htext : text ≠ "null") (ht : t ≠ .complex) :
    readConstant text (.of (.primitive t) nullable) = .ok v ↔ readPrimitive t text = .ok v := by
  rw [readConstant, if_neg htext]
  · cases readPrimitive t text <;> simp
  · exact ht

section Binary

theorem readPrimitive_binary_eq_ok_iff :
    readPrimitive .binary text = .ok v ↔
      ∃ bytes, Text.readHex text = .ok bytes ∧ v = .binary bytes := by
  rw [readPrimitive, readBinary]
  cases Text.readHex text <;> simp [eq_comm]

theorem text_binary (bytes : List UInt8) : (binary bytes).text = Text.hexUpper bytes := by
  rw [Value.text]

/-- A text other than null is read as bytes exactly if it is made of pairs of digits, the first of
which may be a plus sign. -/
theorem exists_readConstant_binary_iff (htext : text ≠ "null") :
    (∃ v, readConstant text (.of (.primitive .binary) nullable) = .ok v) ↔
      Text.SignedPairs text.toList := by
  simp only [readConstant_eq_ok_iff htext (t := .binary) (by decide),
    readPrimitive_binary_eq_ok_iff, ← Text.exists_readHex_iff]
  exact ⟨fun ⟨_, bytes, h, _⟩ => ⟨bytes, h⟩, fun ⟨bytes, h⟩ => ⟨_, bytes, h, rfl⟩⟩

/-- Bytes are shown by the digits that they were read from, in upper case. -/
theorem text_of_readConstant_binary (htext : text ≠ "null")
    (h : readConstant text (.of (.primitive .binary) nullable) = .ok v) :
    ∃ bytes, v = .binary bytes ∧ v.text = String.ofList (text.toList.map Text.upperDigit) := by
  rw [readConstant_eq_ok_iff htext (by decide), readPrimitive_binary_eq_ok_iff] at h
  obtain ⟨bytes, hbytes, rfl⟩ := h
  exact ⟨bytes, rfl, by rw [text_binary, (Text.readHex_eq_ok hbytes).2]⟩

/-- A text is read exactly if it consists of hexadecimal digits in even number, and the bytes are
displayed as the text in upper case. -/
def ReadsAsDigits (text : String) (result : Except ConstantError Value) : Prop :=
  ((∃ v, result = .ok v) ↔ Text.IsHexText text.toList) ∧
    ∀ v, result = .ok v → ∃ bytes, v = .binary bytes ∧ v.text = Text.upper text

/-- Texts other than null are bytes if they consist of pairs of digits, the first of which may be a
plus sign instead, and are displayed in upper case with zeros for these signs. So the texts of
digits and their upper case are all that is read and displayed, unless a sign is among the pairs. -/
theorem readConstant_binary (htext : text ≠ "null") (nullable : Bool) :
    ((∃ v, readConstant text (.of (.primitive .binary) nullable) = .ok v) ↔
        Text.SignedPairs text.toList) ∧
      (∀ v, readConstant text (.of (.primitive .binary) nullable) = .ok v →
        ∃ bytes, v = .binary bytes ∧
          v.text = String.ofList (text.toList.map Text.upperDigit)) ∧
      (ReadsAsDigits text (readConstant text (.of (.primitive .binary) nullable)) ↔
        ¬(Text.SignedPairs text.toList ∧ '+' ∈ text.toList)) := by
  refine ⟨exists_readConstant_binary_iff htext, fun v => text_of_readConstant_binary htext, ?_⟩
  rw [ReadsAsDigits, exists_readConstant_binary_iff htext, Text.isHexText_iff]
  constructor
  · rintro ⟨hdigits, -⟩ ⟨hsigned, hplus⟩
    exact (hdigits.mp hsigned).2 hplus
  · intro hplain
    have hplus : Text.SignedPairs text.toList → '+' ∉ text.toList := fun h hplus =>
      hplain ⟨h, hplus⟩
    refine ⟨⟨fun h => ⟨h, hplus h⟩, And.left⟩, fun v hv => ?_⟩
    obtain ⟨bytes, hbytes, hdisplay⟩ := text_of_readConstant_binary htext hv
    have hsigned := (exists_readConstant_binary_iff htext).mp ⟨v, hv⟩
    have hdigits := Text.isHexText_iff.mpr ⟨hsigned, hplus hsigned⟩
    exact ⟨bytes, hbytes, by rw [hdisplay, Text.upper_of_isHexText hdigits]⟩

/-- Digits of both cases. -/
theorem readConstant_binary_mixedCase :
    "0aFf" ≠ "null" ∧
      ReadsAsDigits "0aFf" (readConstant "0aFf" (.of (.primitive .binary) true)) ∧
      readConstant "0aFf" (.of (.primitive .binary) true) = .ok (.binary [0x0A, 0xFF]) ∧
      (Value.binary [0x0A, 0xFF]).text = "0AFF" := by
  have htext : "0aFf" ≠ "null" := by decide
  have hplus : '+' ∉ "0aFf".toList := by decide
  exact ⟨htext, (readConstant_binary htext true).2.2.mpr fun h => hplus h.2, rfl, rfl⟩

/-- A plus sign and a digit are a byte. -/
theorem readConstant_binary_signedPair :
    readConstant "+5" (.of (.primitive .binary) false) = .ok (.binary [0x05]) ∧
      (Value.binary [0x05]).text = "05" ∧ ¬Text.IsHexText "+5".toList ∧
      ¬ReadsAsDigits "+5" (readConstant "+5" (.of (.primitive .binary) false)) := by
  have hread : readConstant "+5" (.of (.primitive .binary) false) = .ok (.binary [0x05]) := by
    rfl
  have hdigits : ¬Text.IsHexText "+5".toList := fun h => absurd (h.2 '+' (by decide)) (by decide)
  exact ⟨hread, rfl, hdigits, fun h => hdigits (h.1.mp ⟨_, hread⟩)⟩

end Binary

section Display

variable {n : Int}

theorem text_of_integer? (h : v.integer? = some n) : v.text = Text.intText n := by
  cases v with
  | byte | int16 | int32 | int64 =>
    cases h
    rw [Value.text]
  | _ => cases h

/-- An integer is read back from its numeral, as the bounds of each type lie on both sides of zero.
-/
theorem readPrimitive_intText (h : v.IsInteger t n) :
    readPrimitive t (Text.intText n) = .ok v := by
  have hholds := h.holds
  have hv := ofInteger?_eq_some_iff.mpr h
  have hread : ∀ least greatest : Int, least ≤ 0 → 0 ≤ greatest →
      t.integerBounds? = some (least, greatest) →
      Text.readInt least greatest (Text.intText n) = .ok n := by
    intro least greatest hleast hgreatest hbounds
    simp only [EdmType.holdsInteger, hbounds, Bool.and_eq_true, decide_eq_true_eq] at hholds
    exact Text.readInt_intText hleast hgreatest hholds.1 hholds.2
  cases t with
  | byte | int16 | int32 | int64 =>
    rw [ofInteger?, if_pos hholds] at hv
    cases hv
    rw [readPrimitive, readInteger]
    simp only [EdmType.integerBounds?, hread _ _ (by decide) (by decide) rfl]
  | _ => exact absurd h.isSome_integerBounds? (by decide)

/-- The readers of these types give a value back from its display text. -/
theorem readPrimitive_text (ht : t ∈ EdmType.readBack) (hv : v.type? = some t) :
    readPrimitive t v.text = .ok v := by
  cases v with
  | boolean b =>
    cases hv
    cases b <;> rfl
  | byte | int16 | int32 | int64 =>
    rw [text_of_integer? rfl]
    exact readPrimitive_intText ⟨hv, rfl⟩
  | string s =>
    cases hv
    rw [Value.text, readPrimitive]
  | binary bytes =>
    cases hv
    rw [text_binary, readPrimitive_binary_eq_ok_iff]
    exact ⟨bytes, Text.readHex_hexUpper bytes, rfl⟩
  | null => cases hv
  | _ =>
    cases hv
    simp [EdmType.readBack] at ht

/-- Only the readers of strings read the word null. -/
theorem readPrimitive_null (ht : t ∈ EdmType.readBack) (h : readPrimitive t "null" = .ok v) :
    v = .string "null" := by
  simp only [EdmType.readBack, List.mem_cons, List.not_mem_nil, or_false] at ht
  rcases ht with rfl | rfl | rfl | rfl | rfl | rfl | rfl <;> cases h
  rfl

/-- A value of one of these types is read back from its display text, as a constant of its type with
or without null, unless it is the string that is spelled like null. -/
theorem readConstant_text_iff (ht : t ∈ EdmType.readBack) (hv : v.type? = some t)
    (nullable : Bool) :
    readConstant v.text (.of (.primitive t) nullable) = .ok v ↔ v ≠ .string "null" := by
  have hread := readPrimitive_text ht hv
  have ht' : t ≠ .complex := by
    rintro rfl
    simp [EdmType.readBack] at ht
  by_cases htext : v.text = "null"
  · -- the word is null itself where the type takes it, and never the string
    rw [htext] at hread
    rw [readPrimitive_null ht hread, text, readConstant, if_pos rfl]
    · split <;> simp
    · exact ht'
  · have hne : v ≠ .string "null" := by
      rintro rfl
      exact htext (by rw [Value.text])
    simp [readConstant_eq_ok_iff htext ht', hread, hne]

theorem readConstant_text_iff_leastInt64 :
    EdmType.int64 ∈ EdmType.readBack ∧ (Value.int64 Int64.minValue).type? = some .int64 ∧
      (Value.int64 Int64.minValue).text = "-9223372036854775808" ∧
      readConstant "-9223372036854775808" (.of (.primitive .int64) true) =
        .ok (.int64 Int64.minValue) := by
  have ht : EdmType.int64 ∈ EdmType.readBack := by decide
  have htext : (Value.int64 Int64.minValue).text = "-9223372036854775808" := rfl
  have hread := readConstant_text_iff (v := .int64 Int64.minValue) ht rfl true
  rw [htext] at hread
  exact ⟨ht, rfl, htext, hread.mpr (by simp)⟩

end Display

end Value

end RowQuery
