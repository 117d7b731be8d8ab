import RowQuery.Proofs.Moment.Literal
import RowQuery.Proofs.Text.Hex
import RowQuery.Proofs.Text.Nesting

/-!
Literals close the quotes that they open, and no comma or parenthesis of theirs
stands outside quotes. Numbers, words and bytes have no such character at all;
moments, identifiers, strings and names of types stand between quotes.
-/

namespace RowQuery

namespace Text

variable {width n : Nat} {cs : List Char}

@[simp] theorem isUnmarked_replicate (n : Nat) : IsUnmarked (List.replicate n '0') := by
  intro c hc
  rw [List.eq_of_mem_replicate hc]
  rfl

@[simp] theorem isUnmarked_natDigits (n : Nat) : IsUnmarked (natDigits n) :=
  isUnmarked_of_isAlphanum fun c hc => by simp [Char.isAlphanum, isDigit_of_mem_natDigits hc]

@[simp] theorem isUnmarked_padded (width n : Nat) : IsUnmarked (padded width n) := by
  simp [padded, padLeft]

@[simp] theorem isUnmarked_intText (n : Int) : IsUnmarked (intText n).toList := by
  rw [intText, String.toList_ofList, intDigits]
  split <;> simp [isMark]

end Text

namespace Decimal

@[simp] theorem isUnmarked_pointed (coefficient scale : Nat) :
    Text.IsUnmarked (pointed coefficient scale) := by
  have hdigits := Text.isUnmarked_padded (scale + 1) coefficient
  rw [pointed]
  split
  · exact hdigits
  · simp [Text.isMark, hdigits.of_subset (List.take_subset _ _),
      hdigits.of_subset (List.drop_subset _ _)]

theorem isUnmarked_text (d : Decimal) : Text.IsUnmarked d.text.toList := by
  rw [text, String.toList_ofList]
  split <;> simp [Text.isMark]

end Decimal

namespace Floating

variable {f : Format}

@[simp] theorem isUnmarked_signText (negative : Bool) : Text.IsUnmarked (signText negative) := by
  cases negative <;> decide

theorem isUnmarked_inFull (layout : Layout) {digits : List Char} (hdigits : Text.IsUnmarked digits)
    (point : Int) : Text.IsUnmarked (layout.inFull digits point) := by
  rw [Layout.inFull]
  split
  · simp [Text.isMark, hdigits]
  · split
    · split <;> simp [Text.isMark, hdigits]
    · simp [Text.isMark, hdigits.of_subset (List.take_subset _ _),
        hdigits.of_subset (List.drop_subset _ _)]

theorem isUnmarked_magnitude_display (d : Digits) :
    Text.IsUnmarked (Layout.display.magnitude d) := by
  rw [Layout.magnitude]
  refine isUnmarked_inFull _ ?_ _
  split
  · decide
  · have hdigits : Text.IsUnmarked (Text.natDigits d.value).reverse :=
      (Text.isUnmarked_natDigits d.value).of_subset (List.reverse_subset.mpr (List.Subset.refl _))
    have hfirst := hdigits.of_subset (List.dropWhile_sublist (· == '0')).subset
    exact hfirst.of_subset (List.reverse_subset.mpr (List.Subset.refl _))

/-- Numbers are shown without characters that open, close or separate. -/
theorem isUnmarked_displayText (x : Floating f) : Text.IsUnmarked x.displayText.toList := by
  rw [displayText]
  split
  · decide
  · split
    · split <;> decide
    · rw [text, String.toList_ofList, Text.isUnmarked_append]
      exact ⟨isUnmarked_signText _, isUnmarked_magnitude_display _⟩

/-- A literal is a word or the text that stands for a number. -/
theorem isUnmarked_literalWord?_getD (x : Floating f) {number : String}
    (hnumber : Text.IsUnmarked number.toList) :
    Text.IsUnmarked (x.literalWord?.getD number).toList := by
  rw [literalWord?]
  split
  · rw [Option.getD_some]
    decide
  · split
    · rw [Option.getD_some]
      split <;> decide
    · exact hnumber

theorem isUnmarked_oneDigitText (x : Single) : Text.IsUnmarked x.oneDigitText.toList := by
  rw [oneDigitText, String.toList_ofList]
  simp

theorem isUnmarked_singleLiteral (x : Single) : Text.IsUnmarked x.singleLiteral.toList := by
  rw [singleLiteral, String.toList_append, Text.isUnmarked_append]
  exact ⟨x.isUnmarked_literalWord?_getD x.isUnmarked_oneDigitText, by decide⟩

end Floating

namespace Guid

theorem isAlphanum_of_mem_toDigits {n : Nat} {c : Char} (hc : c ∈ Nat.toDigits 16 n) :
    c.isAlphanum = true := by
  have hdigit : ∀ d < 16, (Nat.digitChar d).isAlphanum = true := by decide
  induction n using Nat.strongRecOn with
  | ind n ih =>
    by_cases hsmall : n < 16
    · rw [Nat.toDigits_of_lt_base hsmall, List.mem_singleton] at hc
      rw [hc]
      exact hdigit n hsmall
    · rw [Nat.toDigits_of_base_le (by decide) (by omega), List.mem_append, List.mem_singleton] at hc
      rcases hc with hbefore | rfl
      · exact ih (n / 16) (by omega) hbefore
      · exact hdigit (n % 16) (Nat.mod_lt n (by decide))

theorem isUnmarked_hexDigits (g : Guid) : Text.IsUnmarked g.hexDigits := by
  rw [hexDigits, Text.padLeft, Text.isUnmarked_append]
  exact ⟨Text.isUnmarked_replicate _,
    Text.isUnmarked_of_isAlphanum fun c hc => isAlphanum_of_mem_toDigits hc⟩

theorem isUnmarked_text (g : Guid) : Text.IsUnmarked g.text.toList := by
  have hdigits := g.isUnmarked_hexDigits
  have htake : ∀ i, Text.IsUnmarked (g.hexDigits.drop i) := fun i =>
    hdigits.of_subset (List.drop_subset i _)
  have hpart : ∀ i n, Text.IsUnmarked ((g.hexDigits.drop i).take n) := fun i n =>
    (htake i).of_subset (List.take_subset n _)
  have hfirst : Text.IsUnmarked (g.hexDigits.take 8) := hdigits.of_subset (List.take_subset 8 _)
  rw [text, String.toList_ofList, grouped]
  simp [Text.isMark, hfirst, hpart, htake]

end Guid

/-- The literal of a type is a keyword or stands between quotes. -/
theorem TypeRef.nested_literal (t : TypeRef)
    (hname : ∀ name, t = .named name → Text.IsUnmarked name.toList) :
    Text.Nested false t.literal.toList := by
  cases t with
  | edm type =>
    have hquoted (word : String) (hword : Text.IsUnmarked word.toList) :
        Text.Nested false ("'" ++ word ++ "'").toList :=
      Text.nested_between "" (by decide) hword.quote_notMem
    cases type
    case typeRef => exact hquoted "Type" (by decide)
    case complex => exact hquoted "Complex" (by decide)
    all_goals exact .of_isUnmarked (by decide)
  | named name => exact Text.nested_between "" (by decide) (hname name rfl).quote_notMem

theorem Moment.nested_literal (m : Moment) : Text.Nested false m.literal.toList := by
  rw [m.literal_eq]
  exact Text.nested_between "datetime" (by decide) (by simp [m.quote_notMem_literalBody])

theorem Text.nested_literalQuoted (s : String) : Nested false (literalQuoted s).toList := by
  rw [literalQuoted, String.toList_ofList]
  exact .doubleQuotes s.toList

/-- No quote of a literal stays open, and no comma of it stands outside quotes. Strings may have any
characters, names of types have none that open, close or separate. A value that is not null has a
literal of its own type only. -/
theorem Value.nested_literal? {v : Value} {t : EdmType} {text : String}
    (h : v.literal? t = some text)
    (hname : ∀ name, v = .typeRef (.named name) → Text.IsUnmarked name.toList) :
    Text.Nested false text.toList := by
  cases v with
  | null =>
    rw [literal?] at h
    cases h
    exact .of_isUnmarked (by decide)
  | boolean b =>
    cases t <;> cases h
    cases b <;> exact .of_isUnmarked (by decide)
  | byte b =>
    cases t <;> cases h
    rw [String.toList_ofList]
    exact .of_isUnmarked
      (Text.isUnmarked_of_isAlphanum fun c => Text.isAlphanum_of_mem_byteHexLower)
  | dateTime m =>
    cases t <;> cases h
    exact m.nested_literal
  | decimal d =>
    cases t <;> cases h
    rw [String.toList_append]
    exact .of_isUnmarked (Text.isUnmarked_append.mpr ⟨d.isUnmarked_text, by decide⟩)
  | double x =>
    cases t <;> cases h
    exact .of_isUnmarked (x.isUnmarked_literalWord?_getD x.isUnmarked_displayText)
  | guid g =>
    cases t <;> cases h
    exact Text.nested_between "guid" (by decide) g.isUnmarked_text.quote_notMem
  | int16 n | int32 n =>
    cases t <;> cases h
    exact .of_isUnmarked (Text.isUnmarked_intText _)
  | int64 n =>
    cases t <;> cases h
    rw [String.toList_append]
    exact .of_isUnmarked (Text.isUnmarked_append.mpr ⟨Text.isUnmarked_intText _, by decide⟩)
  | single x =>
    cases t <;> cases h
    exact .of_isUnmarked x.isUnmarked_singleLiteral
  | string s =>
    cases t <;> cases h
    exact Text.nested_literalQuoted s
  | binary bytes =>
    cases t <;> cases h
    refine Text.nested_between "X" (by decide) fun hquote => ?_
    exact absurd (Text.isAlphanum_of_mem_hexUpper hquote) (by decide)
  | typeRef type =>
    cases t <;> cases h
    exact type.nested_literal fun name hnamed => hname name (by rw [hnamed])
  | _ => cases t <;> cases h

end RowQuery
