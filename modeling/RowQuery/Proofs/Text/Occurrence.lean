import Mathlib.Data.List.Infix
import Mathlib.Order.Bounds.Basic
import RowQuery.Text.Search

/-!
Occurrences of a text in another, by characters and by bytes. Searching gives the
least position of an occurrence. Characters are encoded in such a way that no
occurrence of the bytes of a text begins within a character, so the search of
the bytes finds the same occurrence, only with its position counted in bytes.
-/

namespace RowQuery.Text

section Positions

variable {α : Type} {part text : List α} {a : α} {k : Nat}

/-- The part stands in the text behind the first `k` elements. -/
def OccursAt (part text : List α) (k : Nat) : Prop :=
  ∃ before after, text = before ++ part ++ after ∧ before.length = k

theorem occursAt_iff : OccursAt part text k ↔ k ≤ text.length ∧ part <+: text.drop k := by
  constructor
  · rintro ⟨before, after, rfl, rfl⟩
    constructor
    · simp only [List.length_append]
      omega
    · rw [List.append_assoc, List.drop_left]
      exact List.prefix_append part after
  · rintro ⟨hk, after, hafter⟩
    refine ⟨text.take k, after, ?_, List.length_take_of_le hk⟩
    rw [List.append_assoc, hafter, List.take_append_drop]

theorem OccursAt.add_length_le (h : OccursAt part text k) : k + part.length ≤ text.length := by
  obtain ⟨before, after, rfl, rfl⟩ := h
  simp only [List.length_append]
  omega

theorem occursAt_zero_iff : OccursAt part text 0 ↔ part <+: text := by
  simp [occursAt_iff]

theorem occursAt_nil_iff : OccursAt part [] k ↔ part = [] ∧ k = 0 := by
  simp [occursAt_iff, and_comm]

theorem occursAt_cons_succ : OccursAt part (a :: text) (k + 1) ↔ OccursAt part text k := by
  simp [occursAt_iff]

theorem isLeast_zero_iff : IsLeast {k | OccursAt part text k} 0 ↔ part <+: text := by
  rw [← occursAt_zero_iff]
  exact ⟨fun h => h.1, fun h => ⟨h, fun _ _ => Nat.zero_le _⟩⟩

/-- Nothing occurs first at the start of any text. -/
theorem isLeast_nil_iff : IsLeast {k | OccursAt [] text k} k ↔ k = 0 := by
  have hzero : IsLeast {k | OccursAt [] text k} 0 := isLeast_zero_iff.mpr List.nil_prefix
  constructor
  · exact fun h => h.unique hzero
  · rintro rfl
    exact hzero

end Positions

section Search

variable {part text : List Char} {k : Nat}

/-- Searching gives the least position at which the part occurs. -/
theorem isLeast_of_position? (h : position? part text = some k) :
    IsLeast {k | OccursAt part text k} k := by
  induction text generalizing k with
  | nil =>
    simp only [position?, List.isEmpty_iff, Option.ite_none_right_eq_some] at h
    obtain ⟨rfl, h⟩ := h
    cases h
    exact isLeast_zero_iff.mpr List.nil_prefix
  | cons c rest ih =>
    by_cases hprefix : part <+: c :: rest
    · rw [position?, if_pos (List.isPrefixOf_iff_prefix.mpr hprefix)] at h
      cases h
      exact isLeast_zero_iff.mpr hprefix
    · rw [position?, if_neg (mt List.isPrefixOf_iff_prefix.mp hprefix)] at h
      obtain ⟨j, hj, rfl⟩ := Option.map_eq_some_iff.mp h
      obtain ⟨hoccurs, hleast⟩ := ih hj
      refine ⟨occursAt_cons_succ.mpr hoccurs, fun i hi => ?_⟩
      cases i with
      | zero => exact absurd (occursAt_zero_iff.mp hi) hprefix
      | succ i => exact Nat.succ_le_succ (hleast (occursAt_cons_succ.mp hi))

/-- The search fails exactly if the part occurs nowhere. -/
theorem position?_eq_none_iff : position? part text = none ↔ ∀ k, ¬OccursAt part text k := by
  induction text with
  | nil => simp [position?, occursAt_nil_iff]
  | cons c rest ih =>
    by_cases hprefix : part <+: c :: rest
    · rw [position?, if_pos (List.isPrefixOf_iff_prefix.mpr hprefix)]
      simp only [reduceCtorEq, false_iff, not_forall, not_not]
      exact ⟨0, occursAt_zero_iff.mpr hprefix⟩
    · rw [position?, if_neg (mt List.isPrefixOf_iff_prefix.mp hprefix), Option.map_eq_none_iff, ih]
      constructor
      · intro h k hk
        cases k with
        | zero => exact hprefix (occursAt_zero_iff.mp hk)
        | succ k => exact h k (occursAt_cons_succ.mp hk)
      · exact fun h k hk => h (k + 1) (occursAt_cons_succ.mpr hk)

end Search

section Bytes

variable {part text : List Char} {i j k : Nat}

def bytes (cs : List Char) : List UInt8 :=
  cs.flatMap String.utf8EncodeChar

theorem bytes_cons (c : Char) (cs : List Char) :
    bytes (c :: cs) = String.utf8EncodeChar c ++ bytes cs :=
  List.flatMap_cons

theorem bytes_append (cs ds : List Char) : bytes (cs ++ ds) = bytes cs ++ bytes ds :=
  List.flatMap_append

theorem bytes_take_append_drop (text : List Char) (k : Nat) :
    bytes (text.take k) ++ bytes (text.drop k) = bytes text := by
  rw [← bytes_append, List.take_append_drop]

theorem bytes_ne_nil (h : text ≠ []) : bytes text ≠ [] := by
  cases text with
  | nil => exact absurd rfl h
  | cons c cs =>
    rw [bytes_cons]
    exact List.append_ne_nil_of_left_ne_nil String.utf8EncodeChar_ne_nil _

theorem length_bytes_take_mono (text : List Char) (h : j ≤ k) :
    (bytes (text.take j)).length ≤ (bytes (text.take k)).length := by
  obtain ⟨d, rfl⟩ := Nat.exists_eq_add_of_le h
  rw [List.take_add, bytes_append, List.length_append]
  exact Nat.le_add_right _ _

/-- Later characters have later bytes. -/
theorem length_bytes_take_lt (h : j < k) (hk : k ≤ text.length) :
    (bytes (text.take j)).length < (bytes (text.take k)).length := by
  obtain ⟨d, rfl⟩ := Nat.exists_eq_add_of_lt h
  have hbehind : (text.drop j).take (d + 1) ≠ [] := by
    intro hnil
    have hlength := congrArg List.length hnil
    simp only [List.length_take, List.length_drop, List.length_nil] at hlength
    omega
  have hpos := List.length_pos_of_ne_nil (bytes_ne_nil hbehind)
  rw [Nat.add_assoc, List.take_add, bytes_append, List.length_append]
  omega

/-- What starts with the bytes of a text starts with the text. -/
theorem prefix_of_bytes_prefix (h : bytes part <+: bytes text) : part <+: text := by
  obtain ⟨after, hafter⟩ := h
  apply List.isPrefix_of_utf8Encode_append_eq_utf8Encode after.toByteArray
  rw [List.utf8Encode, List.utf8Encode, ← List.toByteArray_append]
  exact congrArg List.toByteArray hafter

/-- A byte that may begin a character does so wherever it stands in a text. -/
theorem exists_boundary {b : UInt8} (hi : (bytes text)[i]? = some b) (hb : b.IsUTF8FirstByte) :
    ∃ k ≤ text.length, (bytes (text.take k)).length = i := by
  induction text generalizing i with
  | nil => simp [bytes] at hi
  | cons c rest ih =>
    rw [bytes_cons] at hi
    by_cases hlt : i < (String.utf8EncodeChar c).length
    · rw [List.getElem?_append_left hlt, List.getElem?_eq_getElem hlt] at hi
      cases hi
      obtain rfl := UInt8.isUTF8FirstByte_getElem_utf8EncodeChar.mp hb
      exact ⟨0, Nat.zero_le _, rfl⟩
    · rw [List.getElem?_append_right (Nat.le_of_not_lt hlt)] at hi
      obtain ⟨k, hk, hlength⟩ := ih hi
      refine ⟨k + 1, Nat.succ_le_succ hk, ?_⟩
      rw [List.take_succ_cons, bytes_cons, List.length_append, hlength]
      omega

/-- The bytes of a text that is not empty begin with the first byte of a character. -/
theorem exists_firstByte (h : part ≠ []) :
    ∃ b rest, bytes part = b :: rest ∧ b.IsUTF8FirstByte := by
  cases part with
  | nil => exact absurd rfl h
  | cons c cs =>
    obtain ⟨b, rest, hc⟩ := List.exists_cons_of_ne_nil (String.utf8EncodeChar_ne_nil (c := c))
    refine ⟨b, rest ++ bytes cs, by rw [bytes_cons, hc, List.cons_append], ?_⟩
    have hfirst := UInt8.isUTF8FirstByte_getElem_zero_utf8EncodeChar (c := c)
    simpa only [hc, List.getElem_cons_zero] using hfirst

/-- An occurrence among characters is one among bytes, at the offset of the bytes before it. -/
theorem OccursAt.bytes (h : OccursAt part text k) :
    OccursAt (bytes part) (bytes text) (bytes (text.take k)).length := by
  obtain ⟨before, after, rfl, rfl⟩ := h
  refine ⟨Text.bytes before, Text.bytes after, by rw [bytes_append, bytes_append], ?_⟩
  rw [List.append_assoc, List.take_left]

/-- The bytes of a part that is not empty occur only where the part does. -/
theorem exists_occursAt_of_bytes (hpart : part ≠ []) (h : OccursAt (bytes part) (bytes text) i) :
    ∃ k, OccursAt part text k ∧ (bytes (text.take k)).length = i := by
  obtain ⟨hi, hprefix⟩ := occursAt_iff.mp h
  obtain ⟨b, rest, hbytes, hfirst⟩ := exists_firstByte hpart
  have hbyte : (bytes text)[i]? = some b := by
    obtain ⟨after, hafter⟩ := hprefix
    rw [hbytes, List.cons_append] at hafter
    rw [← Nat.add_zero i, ← List.getElem?_drop, ← hafter, List.getElem?_cons_zero]
  obtain ⟨k, hk, hlength⟩ := exists_boundary hbyte hfirst
  refine ⟨k, occursAt_iff.mpr ⟨hk, prefix_of_bytes_prefix ?_⟩, hlength⟩
  rwa [← bytes_take_append_drop text k, List.drop_left' hlength] at hprefix

/-- The search of the bytes finds the first occurrence of the text, with as many bytes before it as
its characters have. -/
theorem isLeast_occursAt_bytes_iff :
    IsLeast {i | OccursAt (bytes part) (bytes text) i} i ↔
      ∃ k, IsLeast {k | OccursAt part text k} k ∧ (bytes (text.take k)).length = i := by
  by_cases hpart : part = []
  · subst hpart
    have hnil : bytes [] = [] := rfl
    simp [hnil, isLeast_nil_iff, eq_comm]
  · constructor
    · rintro ⟨hoccurs, hleast⟩
      obtain ⟨k, hk, rfl⟩ := exists_occursAt_of_bytes hpart hoccurs
      refine ⟨k, ⟨hk, fun j hj => ?_⟩, rfl⟩
      have hbefore := hleast hj.bytes
      by_contra hlt
      have hlonger := length_bytes_take_lt (Nat.lt_of_not_le hlt) (occursAt_iff.mp hk).1
      omega
    · rintro ⟨k, ⟨hoccurs, hleast⟩, rfl⟩
      refine ⟨hoccurs.bytes, fun i hi => ?_⟩
      obtain ⟨j, hj, rfl⟩ := exists_occursAt_of_bytes hpart hi
      exact length_bytes_take_mono text (hleast hj)

end Bytes

end RowQuery.Text
