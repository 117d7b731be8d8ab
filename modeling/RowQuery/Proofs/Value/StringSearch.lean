import RowQuery.Proofs.Text.Occurrence
import RowQuery.Value.StringMethod

/-!
The methods of strings that search. All of them are decided by where the argument
occurs first: its position says whether the argument occurs at all and whether
the receiver starts with it. Positions count characters, and are the numbers of
characters before the place at which the search of the bytes ends.
-/

namespace RowQuery

/-- A number that is the least position of a text in another, or -1 if it does not occur there. -/
structure Text.Locates (part text : List Char) (n : Int32) : Prop where
  found : ∀ k : Nat, n.toInt = k ↔ IsLeast {k | OccursAt part text k} k
  missing : n = -1 ↔ ∀ k, ¬OccursAt part text k

namespace Text.Locates

variable {part text : List Char} {n : Int32} {i : Nat}

theorem exists_found (h : Locates part text n) (hn : n ≠ -1) :
    ∃ k : Nat, n.toInt = k ∧ OccursAt part text k := by
  cases hposition : position? part text with
  | none => exact absurd (h.missing.mpr (position?_eq_none_iff.mp hposition)) hn
  | some k =>
    have hleast := isLeast_of_position? hposition
    exact ⟨k, (h.found k).mpr hleast, hleast.1⟩

theorem eq_zero_iff (h : Locates part text n) : n = 0 ↔ part <+: text := by
  rw [← isLeast_zero_iff, ← h.found 0, ← Int32.toInt_inj]
  rfl

/-- The position is the number of characters before the first occurrence of the bytes. -/
theorem of_bytes (h : Locates part text n)
    (hbytes : IsLeast {i | OccursAt (bytes part) (bytes text) i} i) :
    ∃ k : Nat, n.toInt = k ∧ bytes (text.take k) = (bytes text).take i := by
  obtain ⟨k, hleast, hlength⟩ := isLeast_occursAt_bytes_iff.mp hbytes
  refine ⟨k, (h.found k).mpr hleast, ?_⟩
  rw [← bytes_take_append_drop text k, List.take_left' hlength]

end Text.Locates

namespace StringMethod

theorem toInt_ofInt_of_lt {n : Nat} (h : n < 2 ^ 31) : (Int32.ofInt n).toInt = n :=
  Int32.toInt_ofInt_of_le (by omega) (by omega)

theorem countValue_of_lt {n : Nat} (h : n < 2 ^ 31) :
    countValue n = .ok (.int32 (Int32.ofInt n)) := by
  have hholds : EdmType.int32.holdsInteger n = true := by
    simp only [EdmType.holdsInteger, EdmType.integerBounds?, Bool.and_eq_true, decide_eq_true_eq]
    omega
  rw [countValue, if_pos hholds]

variable {text part : String}

theorem apply_indexOf (name text part : String) :
    indexOf.apply name text [.string part] =
      match Text.position? part.toList text.toList with
      | some n => countValue n
      | none => .ok (.int32 (-1)) := rfl

/-- The value of the method that gives positions. -/
theorem exists_locates (text part : String) (hshort : text.length < 2 ^ 31) :
    ∃ n : Int32, Text.Locates part.toList text.toList n ∧
      ∀ name, StringMethod.indexOf.apply name text [.string part] = .ok (.int32 n) := by
  cases hposition : Text.position? part.toList text.toList with
  | none =>
    have hmissing := Text.position?_eq_none_iff.mp hposition
    refine ⟨-1, ⟨fun k => ?_, iff_of_true rfl hmissing⟩, fun name => ?_⟩
    · refine iff_of_false (fun heq => ?_) fun hleast => hmissing k hleast.1
      have hone : (-1 : Int32).toInt = -1 := rfl
      omega
    · rw [apply_indexOf, hposition]
  | some k =>
    have hleast := Text.isLeast_of_position? hposition
    have hk : k < 2 ^ 31 := by
      have hbound := hleast.1.add_length_le
      have hlength : text.toList.length = text.length := String.length_toList
      omega
    have hint := toInt_ofInt_of_lt hk
    refine ⟨Int32.ofInt k, ⟨fun j => ?_, ?_⟩, fun name => ?_⟩
    · rw [hint, Int.natCast_inj]
      exact ⟨fun heq => heq ▸ hleast, hleast.unique⟩
    · refine iff_of_false (fun heq => ?_) fun hmissing => hmissing k hleast.1
      rw [heq] at hint
      have hone : (-1 : Int32).toInt = -1 := rfl
      omega
    · rw [apply_indexOf, hposition]
      exact countValue_of_lt hk

/-- A text contains what is found in it. -/
theorem contains_eq {n : Int32} (h : Text.Locates part.toList text.toList n) :
    Text.contains text part = decide (n ≠ -1) := by
  rw [Text.contains, Text.indexOf?, Bool.eq_iff_iff, decide_eq_true_eq, Option.isSome_iff_ne_none,
    Ne, Ne, Text.position?_eq_none_iff, h.missing]

theorem startsWith_eq {n : Int32} (h : Text.Locates part.toList text.toList n) :
    Text.startsWith text part = decide (n = 0) := by
  rw [Text.startsWith, Bool.eq_iff_iff, decide_eq_true_eq, List.isPrefixOf_iff_prefix,
    h.eq_zero_iff]

theorem endsWith_iff : Text.endsWith text part = true ↔ ∃ before, text = before ++ part := by
  rw [Text.endsWith, List.isSuffixOf_iff_suffix]
  constructor
  · rintro ⟨before, hbefore⟩
    refine ⟨String.ofList before, String.toList_inj.mp ?_⟩
    rw [String.toList_append, String.toList_ofList, hbefore]
  · rintro ⟨before, rfl⟩
    rw [String.toList_append]
    exact List.suffix_append _ _

end StringMethod

namespace Value

theorem callMethod_ofName {name : String} {m : StringMethod}
    (h : StringMethod.ofName? name = some m) (text : String) (args : List Value) :
    (Value.string text).callMethod name args = m.apply name text args := by
  simp only [callMethod, h]

/-- One number decides all searches. It is the least position of the argument, counted in
characters, or -1. The methods that ask whether the receiver contains the argument or starts with
it compare this number, and the receiver ends with what it is some text followed by. The number is
how many characters there are before the place where the search of the bytes finds the argument. -/
theorem callMethod_search (s t : String) (hshort : s.length < 2 ^ 31) :
    ∃ n : Int32,
      (∀ name, StringMethod.ofName? name = some .indexOf →
        (Value.string s).callMethod name [.string t] = .ok (.int32 n)) ∧
      (∀ k : Nat, n.toInt = k ↔ IsLeast {k | Text.OccursAt t.toList s.toList k} k) ∧
      (∀ name, StringMethod.ofName? name = some .contains →
        (Value.string s).callMethod name [.string t] = .ok (.boolean (decide (n ≠ -1)))) ∧
      (∀ name, StringMethod.ofName? name = some .startsWith →
        (Value.string s).callMethod name [.string t] = .ok (.boolean (decide (n = 0)))) ∧
      (∃ ends : Bool, (ends = true ↔ ∃ before, s = before ++ t) ∧
        ∀ name, StringMethod.ofName? name = some .endsWith →
          (Value.string s).callMethod name [.string t] = .ok (.boolean ends)) ∧
      (n ≠ -1 → ∃ k : Nat, n.toInt = k ∧ k + t.length ≤ s.length) ∧
      ∀ i, IsLeast {i | Text.OccursAt (Text.bytes t.toList) (Text.bytes s.toList) i} i →
        ∃ k : Nat, n.toInt = k ∧
          Text.bytes (s.toList.take k) = (Text.bytes s.toList).take i := by
  obtain ⟨n, hlocates, hindex⟩ := StringMethod.exists_locates s t hshort
  have hcontains := StringMethod.contains_eq hlocates
  have hstarts := StringMethod.startsWith_eq hlocates
  refine ⟨n, fun name hname => ?_, hlocates.found, fun name hname => ?_, fun name hname => ?_,
    ⟨Text.endsWith s t, StringMethod.endsWith_iff, fun name hname => ?_⟩, fun hn => ?_,
    fun i hi => hlocates.of_bytes hi⟩
  · rw [callMethod_ofName hname, hindex]
  · rw [callMethod_ofName hname, ← hcontains]
    rfl
  · rw [callMethod_ofName hname, ← hstarts]
    rfl
  · rw [callMethod_ofName hname]
    rfl
  · obtain ⟨k, hk, hoccurs⟩ := hlocates.exists_found hn
    have hbound := hoccurs.add_length_le
    rw [String.length_toList, String.length_toList] at hbound
    exact ⟨k, hk, hbound⟩

/-- Characters of two and of three bytes stand before an occurrence that overlaps a partial one. -/
theorem callMethod_search_accented :
    "ü€aaab".length < 2 ^ 31 ∧
      (Value.string "ü€aaab").callMethod "IndexOf" [.string "aab"] = .ok (.int32 3) ∧
      (Value.string "ü€aaab").callMethod "Contains" [.string "aab"] = .ok (.boolean true) ∧
      (Value.string "ü€aaab").callMethod "StartsWith" [.string "aab"] = .ok (.boolean false) ∧
      (Value.string "ü€aaab").callMethod "EndsWith" [.string "aab"] = .ok (.boolean true) := by
  have hindexOf : StringMethod.ofName? "IndexOf" = some .indexOf := by decide +kernel
  have hcontainsName : StringMethod.ofName? "Contains" = some .contains := by decide +kernel
  have hstartsName : StringMethod.ofName? "StartsWith" = some .startsWith := by decide +kernel
  have hendsName : StringMethod.ofName? "EndsWith" = some .endsWith := by decide +kernel
  have hshort : "ü€aaab".length < 2 ^ 31 := by decide
  obtain ⟨n, hindex, hfound, hcontains, hstarts, ⟨ends, hends, hendsWith⟩, -, -⟩ :=
    callMethod_search "ü€aaab" "aab" hshort
  have hleast : Text.position? "aab".toList "ü€aaab".toList = some 3 := by decide
  have hn : n = 3 :=
    Int32.toInt_inj.mp ((hfound 3).mpr (Text.isLeast_of_position? hleast))
  subst hn
  have hsuffix : ends = true := hends.mpr ⟨"ü€a", by decide⟩
  subst hsuffix
  exact ⟨hshort, hindex _ hindexOf, hcontains _ hcontainsName, hstarts _ hstartsName,
    hendsWith _ hendsName⟩

end Value

end RowQuery
