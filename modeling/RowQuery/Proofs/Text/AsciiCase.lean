import RowQuery.Text.Case

/-!
The ASCII case of texts. Lowering the case of letters neither makes nor removes
white space, so it can be done before a text is trimmed or afterwards. Texts that
are equal up to this case are so with their white space removed, too.
-/

namespace RowQuery.Text

variable {s t : String} {c d : Char}

/-- Beyond ASCII no character is folded. -/
theorem toLower_of_ge (h : 0x80 ≤ c.toNat) : c.toLower = c := by
  have hcapital : ¬(c.val ≥ 'A'.val ∧ c.val ≤ 'Z'.val) := by
    rintro ⟨-, hZ⟩
    have hle : c.toNat ≤ 'Z'.toNat := hZ
    have hZ' : 'Z'.toNat < 0x80 := by decide
    omega
  exact dif_neg hcapital

/-- What holds of all 128 codes holds of every ASCII character. -/
theorem forall_ascii {P : Char → Prop} (h : ∀ k < 0x80, P (Char.ofNat k)) (hc : c.toNat < 0x80) :
    P c := by
  rw [← Char.ofNat_toNat c]
  exact h c.toNat hc

theorem isBlank_toLower (c : Char) : isBlank c.toLower = isBlank c := by
  rcases Nat.lt_or_ge c.toNat 0x80 with hascii | hother
  · exact forall_ascii (P := fun c => isBlank c.toLower = isBlank c) (by decide) hascii
  · rw [toLower_of_ge hother]

theorem toLower_eq_question_iff (c : Char) : c.toLower = '?' ↔ c = '?' := by
  rcases Nat.lt_or_ge c.toNat 0x80 with hascii | hother
  · exact forall_ascii (P := fun c => c.toLower = '?' ↔ c = '?') (by decide) hascii
  · rw [toLower_of_ge hother]

theorem trimStart_map_toLower (cs : List Char) :
    trimStart (cs.map Char.toLower) = (trimStart cs).map Char.toLower := by
  have hblank : isBlank ∘ Char.toLower = isBlank := funext isBlank_toLower
  rw [trimStart, List.dropWhile_map, hblank, trimStart]

theorem trim_map_toLower (cs : List Char) :
    trim (cs.map Char.toLower) = (trim cs).map Char.toLower := by
  simp only [trim, trimStart_map_toLower, ← List.map_reverse]

theorem toList_asciiLower (s : String) : (asciiLower s).toList = s.toList.map Char.toLower :=
  String.toList_map

theorem asciiLower_ofList (cs : List Char) :
    asciiLower (String.ofList cs) = String.ofList (cs.map Char.toLower) := by
  rw [← String.toList_inj, toList_asciiLower, String.toList_ofList, String.toList_ofList]

theorem asciiLower_eq (s : String) :
    asciiLower s = String.ofList (s.toList.map Char.toLower) := by
  rw [← asciiLower_ofList, String.ofList_toList]

theorem asciiLower_append (s t : String) : asciiLower (s ++ t) = asciiLower s ++ asciiLower t := by
  rw [← String.toList_inj, String.toList_append]
  simp only [toList_asciiLower, String.toList_append, List.map_append]

/-- Texts are equal up to case exactly if they fold to the same. -/
theorem equalIgnoringAsciiCase_iff :
    equalIgnoringAsciiCase s t = true ↔ asciiLower s = asciiLower t :=
  beq_iff_eq

theorem asciiLower_trimmed (s : String) : asciiLower (trimmed s) = trimmed (asciiLower s) := by
  rw [trimmed, asciiLower_ofList, trimmed, toList_asciiLower, trim_map_toLower]

end RowQuery.Text
