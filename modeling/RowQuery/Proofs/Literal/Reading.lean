import RowQuery.Command.Constant
import RowQuery.Literal
import RowQuery.Proofs.Text.Hex
import RowQuery.Proofs.Text.Numeral
import RowQuery.Proofs.Text.Quoted
import RowQuery.Proofs.Value.Integers

/-!
Literals read back. The readers know the form of each type and nothing of how
values are written: words for Booleans, two digits for a byte, numerals for the
other integers, and quoted texts. Every value of these types is found again in
its literal, and a string also where more text stands behind it.
-/

namespace RowQuery

def EdmType.readBack : List EdmType :=
  [.boolean, .byte, .int16, .int32, .int64, .string, .binary]

def Text.dropSuffix (suffix : Char) (cs : List Char) : List Char :=
  if cs.getLast? = some suffix then cs.dropLast else cs

namespace Value

def readByteLiteral? (text : String) : Option Value :=
  match Text.hexBytes? text.toList with
  | some [b] => some (.byte b)
  | _ => none

/-- A numeral within the bounds of an integer type, with or without an `L` behind it. -/
def readIntegerLiteral? (t : EdmType) (text : String) : Option Value := do
  let (least, greatest) ← t.integerBounds?
  let numeral := String.ofList (Text.dropSuffix 'L' text.toList)
  let n ← (Text.readInt least greatest numeral).toOption
  ofInteger? n t

def readStringLiteral? (text : String) : Option Value :=
  match Text.readQuoted? text.toList with
  | some (s, []) => some (.string (String.ofList s))
  | _ => none

def readBinaryLiteral? (text : String) : Option Value :=
  match text.toList with
  | 'X' :: quoted =>
    match Text.readQuoted? quoted with
    | some (digits, []) => (Text.hexBytes? digits).map .binary
    | _ => none
  | _ => none

def readLiteral? (t : EdmType) (text : String) : Option Value :=
  match t with
  | .boolean => (readBoolean text).toOption
  | .byte => readByteLiteral? text
  | .int16 | .int32 | .int64 => readIntegerLiteral? t text
  | .string => readStringLiteral? text
  | .binary => readBinaryLiteral? text
  | _ => none

end Value

theorem Text.dropSuffix_intText (n : Int) :
    dropSuffix 'L' (intText n).toList = (intText n).toList := by
  rw [dropSuffix, if_neg]
  intro hlast
  have hmem : 'L' ∈ intDigits n := by
    rw [intText, String.toList_ofList] at hlast
    exact List.mem_of_getLast? hlast
  have hletter : ¬ 'L' ∈ natDigits n.natAbs := fun h =>
    absurd (isDigit_of_mem_natDigits h) (by decide)
  rw [intDigits] at hmem
  split at hmem
  · rcases List.mem_cons.mp hmem with hminus | hdigit
    · exact absurd hminus (by decide)
    · exact hletter hdigit
  · exact hletter hmem

theorem Text.dropSuffix_append (suffix : Char) (cs : List Char) :
    dropSuffix suffix (cs ++ [suffix]) = cs := by
  rw [dropSuffix, if_pos List.getLast?_concat, List.dropLast_concat]

namespace Value

variable {v : Value} {t : EdmType} {n : Int} {text : String}

/-- An integer is read from its numeral, with or without the suffix. -/
theorem readIntegerLiteral?_of_isInteger (h : v.IsInteger t n)
    (htext : Text.dropSuffix 'L' text.toList = (Text.intText n).toList) :
    readIntegerLiteral? t text = some v := by
  have hholds := h.holds
  unfold EdmType.holdsInteger at hholds
  split at hholds
  case h_2 => cases hholds
  case h_1 least greatest hbounds =>
    simp only [Bool.and_eq_true, decide_eq_true_eq] at hholds
    have hzero : least ≤ 0 ∧ 0 ≤ greatest := by
      cases t <;> cases hbounds <;> decide
    have hread : Text.readInt least greatest (Text.intText n) = .ok n :=
      Text.readInt_intText hzero.1 hzero.2 hholds.1 hholds.2
    simp only [readIntegerLiteral?, hbounds, htext, String.ofList_toList, hread, Except.toOption,
      Option.bind_eq_bind, Option.bind_some]
    exact ofInteger?_eq_some_iff.mpr h

theorem readStringLiteral?_literalQuoted (s : String) :
    readStringLiteral? (Text.literalQuoted s) = some (.string s) := by
  have hend : ([] : List Char).head? ≠ some '\'' := by decide
  have hread := Text.readQuoted?_literalQuoted s hend
  rw [List.append_nil] at hread
  rw [readStringLiteral?, hread]
  simp

theorem readBinaryLiteral?_hexUpper (bytes : List UInt8) :
    readBinaryLiteral? ("X'" ++ Text.hexUpper bytes ++ "'") = some (.binary bytes) := by
  have hquotes : Text.doubleQuotes (Text.hexUpper bytes).toList = (Text.hexUpper bytes).toList :=
    Text.doubleQuotes_eq_self_iff.mpr fun hquote =>
      absurd (Text.isAlphanum_of_mem_hexUpper hquote) (by decide)
  have htext : ("X'" ++ Text.hexUpper bytes ++ "'").toList =
      'X' :: '\'' :: ((Text.hexUpper bytes).toList ++ ['\'']) := by
    simp
  have hend : ([] : List Char).head? ≠ some '\'' := by decide
  have hread := (Text.readQuoted?_between_iff _ _ hend).mpr hquotes.symm
  rw [readBinaryLiteral?, htext]
  simp only [hread, Text.hexBytes?_hexUpper, Option.map_some]

/-- A value of one of these types is read back from its literal, and nothing that follows the
literal of a string makes it longer or shorter, unless it is a quote. -/
theorem readLiteral?_literal :
    (∀ (v : Value) (t : EdmType), t ∈ EdmType.readBack → v.type? = some t →
      ∃ text, v.literal? t = some text ∧ readLiteral? t text = some v) ∧
    ∀ (s : String) (rest : List Char), rest.head? ≠ some '\'' →
      ∃ text, (Value.string s).literal? .string = some text ∧
        Text.readQuoted? (text.toList ++ rest) = some (s.toList, rest) := by
  constructor
  · intro v t ht hv
    cases v with
    | boolean b =>
      cases hv
      cases b <;> exact ⟨_, rfl, rfl⟩
    | byte b =>
      cases hv
      refine ⟨_, rfl, ?_⟩
      rw [readLiteral?, readByteLiteral?, String.toList_ofList, Text.hexBytes?_byteHexLower]
    | int16 n =>
      cases hv
      exact ⟨_, rfl, readIntegerLiteral?_of_isInteger ⟨rfl, rfl⟩ (Text.dropSuffix_intText _)⟩
    | int32 n =>
      cases hv
      exact ⟨_, rfl, readIntegerLiteral?_of_isInteger ⟨rfl, rfl⟩ (Text.dropSuffix_intText _)⟩
    | int64 n =>
      cases hv
      refine ⟨_, rfl, readIntegerLiteral?_of_isInteger ⟨rfl, rfl⟩ ?_⟩
      rw [String.toList_append]
      exact Text.dropSuffix_append 'L' _
    | string s =>
      cases hv
      exact ⟨_, rfl, readStringLiteral?_literalQuoted s⟩
    | binary bytes =>
      cases hv
      exact ⟨_, rfl, readBinaryLiteral?_hexUpper bytes⟩
    | null => cases hv
    | _ =>
      cases hv
      simp [EdmType.readBack] at ht
  · intro s rest hrest
    exact ⟨_, rfl, Text.readQuoted?_literalQuoted s hrest⟩

/-- A name with quotes at both ends and a quote of its own, in front of a further argument. -/
theorem readLiteral?_literal_quotedName :
    EdmType.string ∈ EdmType.readBack ∧ (Value.string "'O'Neil'").type? = some .string ∧
      (∃ text, (Value.string "'O'Neil'").literal? .string = some text ∧
        readLiteral? .string text = some (.string "'O'Neil'")) ∧
      (", 'x')".toList.head? ≠ some '\'') ∧
      ∃ text, (Value.string "'O'Neil'").literal? .string = some text ∧
        Text.readQuoted? (text.toList ++ ", 'x')".toList) =
          some ("'O'Neil'".toList, ", 'x')".toList) := by
  have htype : EdmType.string ∈ EdmType.readBack := by decide
  have hrest : ", 'x')".toList.head? ≠ some '\'' := by decide
  exact ⟨htype, rfl, readLiteral?_literal.1 _ _ htype rfl, hrest, readLiteral?_literal.2 _ _ hrest⟩

end Value

end RowQuery
