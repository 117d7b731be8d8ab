import RowQuery.Proofs.Text.Hex
import RowQuery.Text.Hex

/-!
Decoding of form-encoded texts. A plus sign is a space, a percent sign begins
the two digits of a byte, every other character is its own bytes, and all bytes
together have to be a text. Decoding undoes encoding, and an encoded text has no
character outside a small set of ASCII.
-/

namespace RowQuery.Text

def isFormChar (c : Char) : Bool :=
  c.isAlphanum || "-_.!*()+%".toList.contains c

def formCharBytes (c : Char) : List UInt8 :=
  String.utf8EncodeChar (if c = '+' then ' ' else c)

def formBytes? : List Char → Option (List UInt8)
  | [] => some []
  | c :: rest =>
    if c = '%' then
      match rest with
      | high :: low :: rest => do
        let h ← hexDigit? high
        let l ← hexDigit? low
        let bytes ← formBytes? rest
        return UInt8.ofNat (h * 16 + l) :: bytes
      | _ => none
    else (formBytes? rest).map (formCharBytes c ++ ·)

def formDecode? (s : String) : Option String := do
  let bytes ← formBytes? s.toList
  String.fromUTF8? bytes.toByteArray

theorem isFormChar_lowerHexDigit : ∀ n < 16, isFormChar (lowerHexDigit n) = true := by
  decide

theorem formBytes?_cons {c : Char} (hc : c ≠ '%') (rest : List Char) :
    formBytes? (c :: rest) = (formBytes? rest).map (formCharBytes c ++ ·) := by
  rw [formBytes?.eq_def]
  exact if_neg hc

theorem formBytes?_escape (b : UInt8) (rest : List Char) :
    formBytes? (('%' :: byteHexLower b) ++ rest) = (formBytes? rest).map (b :: ·) := by
  have hb : b.toNat < 256 := b.toNat_lt
  have hhigh := hexDigit?_lowerHexDigit (b.toNat / 16) (by omega)
  have hlow := hexDigit?_lowerHexDigit (b.toNat % 16) (by omega)
  have hbyte : UInt8.ofNat (b.toNat / 16 * 16 + b.toNat % 16) = b := by
    rw [Nat.div_add_mod', UInt8.ofNat_toNat]
  simp only [byteHexLower, List.cons_append, List.nil_append, formBytes?, if_pos, hhigh, hlow,
    Option.bind_eq_bind, Option.bind_some, hbyte]
  cases formBytes? rest <;> rfl

theorem formBytes?_escapes (bytes : List UInt8) (rest : List Char) :
    formBytes? ((bytes.flatMap fun b => '%' :: byteHexLower b) ++ rest) =
      (formBytes? rest).map (bytes ++ ·) := by
  induction bytes with
  | nil => simp
  | cons b bytes ih =>
    rw [List.flatMap_cons, List.append_assoc, formBytes?_escape, ih, Option.map_map]
    rfl

/-- What one character is encoded as decodes to the bytes of this character. -/
theorem formBytes?_encodeFormChar (c : Char) (rest : List Char) :
    formBytes? (encodeFormChar c ++ rest) =
      (formBytes? rest).map (String.utf8EncodeChar c ++ ·) := by
  rw [encodeFormChar]
  split
  case isTrue hc =>
    have hpercent : c ≠ '%' := by
      rintro rfl
      exact absurd hc (by decide)
    have hplus : c ≠ '+' := by
      rintro rfl
      exact absurd hc (by decide)
    rw [List.singleton_append, formBytes?_cons hpercent, formCharBytes, if_neg hplus]
  case isFalse =>
    split
    case isTrue hc =>
      subst hc
      exact formBytes?_cons (by decide) rest
    case isFalse => exact formBytes?_escapes _ _

/-- Encoded characters are read back as the bytes of their UTF-8 form. -/
theorem formBytes?_flatMap (cs : List Char) :
    formBytes? (cs.flatMap encodeFormChar) = some (cs.flatMap String.utf8EncodeChar) := by
  induction cs with
  | nil => rfl
  | cons c cs ih =>
    rw [List.flatMap_cons, formBytes?_encodeFormChar, ih, Option.map_some, List.flatMap_cons]

theorem toByteArray_flatMap_utf8EncodeChar (s : String) :
    (s.toList.flatMap String.utf8EncodeChar).toByteArray = s.toByteArray := by
  rw [← String.ofList_toList (s := s), String.toByteArray_ofList, List.utf8Encode,
    String.toList_ofList]

theorem fromUTF8?_toByteArray (s : String) : String.fromUTF8? s.toByteArray = some s := by
  simp [String.fromUTF8?, s.isValidUTF8, String.fromUTF8]

/-- Decoding undoes encoding, whatever characters the text has. -/
theorem formDecode?_formEncode (s : String) : formDecode? (formEncode s) = some s := by
  simp only [formDecode?, formEncode, String.toList_ofList, formBytes?_flatMap,
    Option.bind_eq_bind, Option.bind_some, toByteArray_flatMap_utf8EncodeChar,
    fromUTF8?_toByteArray]

theorem isFormChar_of_isUnreserved {c : Char} (hc : isUnreserved c = true) :
    isFormChar c = true := by
  simp only [isUnreserved, isFormChar, Bool.or_eq_true] at hc ⊢
  refine hc.imp_right fun h => ?_
  have hmarks : ("-_.!*()".toList ⊆ "-_.!*()+%".toList) := by decide
  exact List.contains_iff_mem.mpr (hmarks (List.contains_iff_mem.mp h))

theorem isFormChar_escape (b : UInt8) : ∀ c ∈ '%' :: byteHexLower b, isFormChar c = true := by
  have hb : b.toNat < 256 := b.toNat_lt
  have hhigh := isFormChar_lowerHexDigit (b.toNat / 16) (by omega)
  have hlow := isFormChar_lowerHexDigit (b.toNat % 16) (by omega)
  simpa [byteHexLower] using ⟨by decide, hhigh, hlow⟩

theorem isFormChar_encodeFormChar {c d : Char} (hd : d ∈ encodeFormChar c) :
    isFormChar d = true := by
  rw [encodeFormChar] at hd
  split at hd
  case isTrue hc =>
    rw [List.mem_singleton.mp hd]
    exact isFormChar_of_isUnreserved hc
  case isFalse =>
    split at hd
    case isTrue =>
      rw [List.mem_singleton.mp hd]
      decide
    case isFalse =>
      obtain ⟨b, -, hb⟩ := List.mem_flatMap.mp hd
      exact isFormChar_escape b d hb

/-- An encoded text has only characters that a form may have, so neither separators nor blanks. -/
theorem isFormChar_formEncode {s : String} {c : Char} (hc : c ∈ (formEncode s).toList) :
    isFormChar c = true := by
  rw [formEncode, String.toList_ofList] at hc
  obtain ⟨d, -, hd⟩ := List.mem_flatMap.mp hc
  exact isFormChar_encodeFormChar hd

end RowQuery.Text
