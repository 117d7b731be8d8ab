import RowQuery.Proofs.Literal.Reading
import RowQuery.Proofs.Text.AsciiCase

/-!
Names of types up to case. Any mixture of cases is read where the name of a type
or the word for a kind stands, but the first part of a keyword has two spellings
only. So a text is read exactly if it names a type in some case and does not
start with this part in another one, with white space and the mark for null
taken away before.
-/

namespace RowQuery

theorem Text.startsWith_iff {s part : String} :
    startsWith s part = true ↔ ∃ rest, s = part ++ rest := by
  rw [startsWith, List.isPrefixOf_iff_prefix]
  constructor
  · rintro ⟨rest, hrest⟩
    refine ⟨String.ofList rest, ?_⟩
    rw [← String.toList_inj, String.toList_append, String.toList_ofList, hrest]
  · rintro ⟨rest, rfl⟩
    exact ⟨rest.toList, String.toList_append.symm⟩

namespace EdmType

variable {text s t : String} {k l : EdmType}

/-- The text is the name of the type or its keyword, in any case and with any white space around. -/
def IsNamed (text : String) (k : EdmType) : Prop :=
  Text.asciiLower (Text.trimmed text) = Text.asciiLower k.name ∨
    Text.asciiLower (Text.trimmed text) = "edm." ++ Text.asciiLower k.name

/-- The text starts with the first part of a keyword in one of its two spellings. -/
def HasHeading (text : String) : Prop :=
  Text.startsWith (Text.trimmed text) "Edm." = true ∨
    Text.startsWith (Text.trimmed text) "edm." = true

/-- The text starts with the first part of a keyword in another mixture of cases. -/
def HasMixedHeading (text : String) : Prop :=
  Text.startsWith (Text.asciiLower (Text.trimmed text)) "edm." = true ∧ ¬HasHeading text

instance (text : String) : Decidable (HasHeading text) :=
  inferInstanceAs (Decidable (_ ∨ _))

instance (text : String) : Decidable (HasMixedHeading text) :=
  inferInstanceAs (Decidable (_ ∧ _))

/-- The text without the first part of a keyword, if it has one in one of its two spellings. -/
def bare (text : String) : String :=
  if Text.startsWith (Text.trimmed text) "Edm." || Text.startsWith (Text.trimmed text) "edm." then
    Text.dropStart 4 (Text.trimmed text)
  else Text.trimmed text

section Names

theorem mem_all (k : EdmType) : k ∈ all := by
  cases k <;> decide

/-- No two types have names that differ in case alone. -/
theorem eq_of_asciiLower_name : ∀ k ∈ all, ∀ l ∈ all,
    Text.asciiLower k.name = Text.asciiLower l.name → k = l := by
  simp only [Text.asciiLower_eq, String.ofList_inj]
  decide

theorem startsWith_asciiLower_name (k : EdmType) :
    Text.startsWith (Text.asciiLower k.name) "edm." = false := by
  simp only [Text.asciiLower_eq, Text.startsWith, String.toList_ofList]
  cases k <;> rfl

/-- The search for a name finds the type with this name up to case. -/
theorem find?_name_eq_some_iff :
    (all.find? fun l => Text.equalIgnoringAsciiCase l.name text) = some k ↔
      Text.asciiLower k.name = Text.asciiLower text := by
  constructor
  · intro h
    have hname := List.find?_some h
    exact Text.equalIgnoringAsciiCase_iff.mp hname
  · intro h
    cases hfind : all.find? fun l => Text.equalIgnoringAsciiCase l.name text with
    | none =>
      have hnone := List.find?_eq_none.mp hfind k k.mem_all
      exact absurd (Text.equalIgnoringAsciiCase_iff.mpr h) hnone
    | some l =>
      have hname := List.find?_some hfind
      have hl := (Text.equalIgnoringAsciiCase_iff.mp hname).trans h.symm
      rw [eq_of_asciiLower_name l l.mem_all k k.mem_all hl]

/-- What is compared with the names is the text without blanks and heading. -/
theorem parse_eq_ok_iff_bare :
    parse text = .ok k ↔ Text.asciiLower k.name = Text.asciiLower (bare text) := by
  rw [← find?_name_eq_some_iff, parse, bare]
  split
  · rename_i l hl
    rw [hl, Except.ok.injEq, Option.some.injEq]
  · rename_i hnone
    rw [hnone]
    simp

theorem bare_of_heading (h : HasHeading text) :
    bare text = Text.dropStart 4 (Text.trimmed text) := by
  rw [bare, if_pos]
  rwa [Bool.or_eq_true]

theorem bare_of_noHeading (h : ¬HasHeading text) : bare text = Text.trimmed text := by
  rw [bare, if_neg]
  rwa [Bool.or_eq_true]

/-- The first part of a keyword has four characters, behind which the name stands. -/
theorem HasHeading.asciiLower_eq (h : HasHeading text) :
    Text.asciiLower (Text.trimmed text) = "edm." ++ Text.asciiLower (bare text) := by
  have hcut : ∀ head rest : String, head.toList.length = 4 → Text.asciiLower head = "edm." →
      Text.asciiLower (head ++ rest) =
        "edm." ++ Text.asciiLower (Text.dropStart 4 (head ++ rest)) := by
    intro head rest hlength hhead
    rw [Text.asciiLower_append, hhead, Text.dropStart, String.toList_append,
      List.drop_left' hlength, String.ofList_toList]
  rw [bare_of_heading h]
  rcases h with h | h
  · obtain ⟨rest, hrest⟩ := Text.startsWith_iff.mp h
    rw [hrest]
    exact hcut "Edm." rest rfl (by rw [Text.asciiLower_eq]; rfl)
  · obtain ⟨rest, hrest⟩ := Text.startsWith_iff.mp h
    rw [hrest]
    exact hcut "edm." rest rfl (by rw [Text.asciiLower_eq]; rfl)

theorem isNamed_iff_of_heading {rest : String}
    (h : Text.asciiLower (Text.trimmed text) = "edm." ++ rest) :
    IsNamed text k ↔ Text.asciiLower k.name = rest := by
  have hname : "edm." ++ rest ≠ Text.asciiLower k.name := by
    intro heq
    have hstart := k.startsWith_asciiLower_name
    rw [← heq, Text.startsWith_iff.mpr ⟨rest, rfl⟩] at hstart
    cases hstart
  rw [IsNamed, h, or_iff_right hname, eq_comm (b := rest)]
  simp [← String.toList_inj]

theorem isNamed_iff_of_plain
    (h : Text.startsWith (Text.asciiLower (Text.trimmed text)) "edm." = false) :
    IsNamed text k ↔ Text.asciiLower k.name = Text.asciiLower (Text.trimmed text) := by
  rw [IsNamed, or_iff_left, eq_comm]
  intro heq
  rw [heq, Text.startsWith_iff.mpr ⟨_, rfl⟩] at h
  cases h

/-- A text is read as a type exactly if it names the type and has no mixed heading: what keeps a
heading is no bare name, as no bare name starts like one. -/
theorem parse_eq_ok_iff : parse text = .ok k ↔ IsNamed text k ∧ ¬HasMixedHeading text := by
  rw [parse_eq_ok_iff_bare]
  by_cases hheading : HasHeading text
  · have hmixed : ¬HasMixedHeading text := fun h => h.2 hheading
    rw [isNamed_iff_of_heading hheading.asciiLower_eq, and_iff_left hmixed]
  · rw [bare_of_noHeading hheading]
    cases hlower : Text.startsWith (Text.asciiLower (Text.trimmed text)) "edm." with
    | true =>
      have hmixed : HasMixedHeading text := ⟨hlower, hheading⟩
      refine iff_of_false (fun heq => ?_) fun h => h.2 hmixed
      rw [← heq, k.startsWith_asciiLower_name] at hlower
      cases hlower
    | false =>
      have hmixed : ¬HasMixedHeading text := fun h => absurd h.1 (by simp [hlower])
      rw [isNamed_iff_of_plain hlower, and_iff_left hmixed]

end Names

theorem isNamed_congr (h : Text.asciiLower s = Text.asciiLower t) :
    IsNamed s k ↔ IsNamed t k := by
  simp only [IsNamed, Text.asciiLower_trimmed, h]

end EdmType

namespace ColumnType

variable {text base s t : String} {c d : ColumnType}

def unmarked (text : String) : String :=
  String.ofList (Text.dropSuffix '?' (Text.trim text.toList))

def isMarked (text : String) : Bool :=
  (Text.trim text.toList).getLast? == some '?'

/-- The text, which has no mark, names the type in any case. -/
inductive IsKindNamed (base : String) : ColumnType → Prop
  | row (h : Text.asciiLower base = "row") : IsKindNamed base .row
  | list (h : Text.asciiLower base = "list") : IsKindNamed base .list
  | any (h : Text.asciiLower base = "any" ∨ Text.asciiLower base = "value") :
      IsKindNamed base .any
  | primitive {k : EdmType} (h : EdmType.IsNamed base k) (hk : k ≠ .complex) :
      IsKindNamed base (.ofEdm k)

/-- The text names the type in any case, with a mark behind it for one that takes null. -/
def IsNamed (text : String) (c : ColumnType) : Prop :=
  ∃ d, IsKindNamed (unmarked text) d ∧ c = if isMarked text then d.asNullable else d

section Names

theorem IsKindNamed.congr (h : Text.asciiLower s = Text.asciiLower t) (hs : IsKindNamed s c) :
    IsKindNamed t c := by
  cases hs with
  | row hrow => exact .row (h ▸ hrow)
  | list hlist => exact .list (h ▸ hlist)
  | any hany => exact .any (h ▸ hany)
  | primitive hnamed hk => exact .primitive ((EdmType.isNamed_congr h).mp hnamed) hk

theorem isKindNamed_congr (h : Text.asciiLower s = Text.asciiLower t) :
    IsKindNamed s c ↔ IsKindNamed t c :=
  ⟨.congr h, .congr h.symm⟩

/-- No primitive type has one of the words for the other types. -/
theorem not_isNamed_word {word : String} (hword : word ∈ ["row", "list", "any", "value"])
    (h : Text.asciiLower base = word) (k : EdmType) : ¬EdmType.IsNamed base k := by
  have hnames : ∀ word ∈ ["row", "list", "any", "value"], ∀ k ∈ EdmType.all,
      Text.trimmed word ≠ Text.asciiLower k.name ∧
        Text.trimmed word ≠ "edm." ++ Text.asciiLower k.name := by
    simp only [Text.asciiLower_eq, ne_eq, ← String.toList_inj, String.toList_append,
      String.toList_ofList]
    decide
  rw [EdmType.IsNamed, Text.asciiLower_trimmed, h, not_or]
  exact hnames word hword k k.mem_all

theorem not_hasMixedHeading_word {word : String} (hword : word ∈ ["row", "list", "any", "value"])
    (h : Text.asciiLower base = word) : ¬EdmType.HasMixedHeading base := by
  have hstart : ∀ word ∈ ["row", "list", "any", "value"],
      Text.startsWith (Text.trimmed word) "edm." = false := by
    decide
  intro hmixed
  have hhead := hmixed.1
  rw [Text.asciiLower_trimmed, h, hstart word hword] at hhead
  cases hhead

/-- What is read names its kind; a keyword of its own is never taken for a bare name. -/
theorem IsKindNamed.of_parseKind (h : parseKind base text = .ok c) :
    IsKindNamed base c ∧ ¬EdmType.HasMixedHeading base := by
  unfold parseKind at h
  split at h
  case h_1 hword =>
    cases h
    exact ⟨.row hword, not_hasMixedHeading_word (by decide) hword⟩
  case h_2 hword =>
    cases h
    exact ⟨.list hword, not_hasMixedHeading_word (by decide) hword⟩
  case h_3 hword =>
    cases h
    exact ⟨.any (Or.inl hword), not_hasMixedHeading_word (by decide) hword⟩
  case h_4 hword =>
    cases h
    exact ⟨.any (Or.inr hword), not_hasMixedHeading_word (by decide) hword⟩
  case h_5 =>
    split at h
    · cases h
    · cases h
    · rename_i k hk hparse
      cases h
      obtain ⟨hnamed, hmixed⟩ := EdmType.parse_eq_ok_iff.mp hparse
      exact ⟨.primitive hnamed hk, hmixed⟩

/-- What names a primitive type gets past the words for the other types. -/
theorem parseKind_of_isNamed {k : EdmType} (h : EdmType.IsNamed base k)
    (hparse : EdmType.parse base = .ok k) (hk : k ≠ .complex) :
    parseKind base text = .ok (.ofEdm k) := by
  unfold parseKind
  split
  case h_1 hword | h_2 hword | h_3 hword | h_4 hword =>
    exact absurd h (not_isNamed_word (by decide) hword k)
  case h_5 =>
    rw [hparse]
    cases k <;> first | rfl | exact absurd rfl hk

/-- A text that names a kind is read as that kind, unless its heading mixes the cases. -/
theorem IsKindNamed.parseKind_eq (h : IsKindNamed base c)
    (hmixed : ¬EdmType.HasMixedHeading base) : parseKind base text = .ok c := by
  cases h with
  | row hword | list hword =>
    rw [parseKind, hword]
    rfl
  | any hword =>
    rcases hword with hword | hword
    all_goals
      rw [parseKind, hword]
      rfl
  | primitive hnamed hk =>
    exact parseKind_of_isNamed hnamed (EdmType.parse_eq_ok_iff.mpr ⟨hnamed, hmixed⟩) hk

theorem parseKind_eq_ok_iff :
    parseKind base text = .ok c ↔ IsKindNamed base c ∧ ¬EdmType.HasMixedHeading base :=
  ⟨IsKindNamed.of_parseKind, fun ⟨h, hmixed⟩ => h.parseKind_eq hmixed⟩

/-- The mark at the end is cut off first and makes what is read nullable. -/
theorem parse_eq_ok_iff_exists :
    parse text = .ok c ↔
      ∃ d, parseKind (unmarked text) text = .ok d ∧
        c = if isMarked text then d.asNullable else d := by
  rw [parse, isMarked, unmarked, Text.dropSuffix]
  by_cases hlast : (Text.trim text.toList).getLast? = some '?'
  · simp only [hlast, beq_self_eq_true, if_true]
    cases parseKind (String.ofList (Text.trim text.toList).dropLast) text <;>
      simp [Except.map, eq_comm]
  · simp only [hlast, beq_eq_false_iff_ne.mpr hlast, Bool.false_eq_true, if_false]
    simp [eq_comm]

/-- A text is read as a column type exactly if it names the type and has no mixed heading. -/
theorem parse_eq_ok_iff :
    parse text = .ok c ↔ IsNamed text c ∧ ¬EdmType.HasMixedHeading (unmarked text) := by
  simp only [parse_eq_ok_iff_exists, IsNamed, parseKind_eq_ok_iff]
  constructor
  · rintro ⟨d, ⟨hnamed, hmixed⟩, hc⟩
    exact ⟨⟨d, hnamed, hc⟩, hmixed⟩
  · rintro ⟨⟨d, hnamed, hc⟩, hmixed⟩
    exact ⟨d, ⟨hnamed, hmixed⟩, hc⟩

theorem getLast?_map_toLower_iff (cs : List Char) :
    (cs.map Char.toLower).getLast? = some '?' ↔ cs.getLast? = some '?' := by
  rw [List.getLast?_map, Option.map_eq_some_iff]
  simp [Text.toLower_eq_question_iff]

theorem isMarked_asciiLower (s : String) : isMarked (Text.asciiLower s) = isMarked s := by
  rw [isMarked, isMarked, Text.toList_asciiLower, Text.trim_map_toLower, Bool.eq_iff_iff,
    beq_iff_eq, beq_iff_eq, getLast?_map_toLower_iff]

theorem asciiLower_unmarked (s : String) :
    Text.asciiLower (unmarked s) = unmarked (Text.asciiLower s) := by
  rw [unmarked, unmarked, Text.toList_asciiLower, Text.trim_map_toLower, Text.asciiLower_ofList,
    Text.dropSuffix, Text.dropSuffix]
  by_cases hlast : (Text.trim s.toList).getLast? = some '?'
  · rw [if_pos hlast, if_pos ((getLast?_map_toLower_iff _).mpr hlast), List.map_dropLast]
  · rw [if_neg hlast, if_neg (mt (getLast?_map_toLower_iff _).mp hlast)]

theorem isNamed_congr (h : Text.asciiLower s = Text.asciiLower t) :
    IsNamed s c ↔ IsNamed t c := by
  have hunmarked : Text.asciiLower (unmarked s) = Text.asciiLower (unmarked t) := by
    rw [asciiLower_unmarked, h, asciiLower_unmarked]
  simp only [IsNamed, isKindNamed_congr hunmarked, ← isMarked_asciiLower s, h,
    isMarked_asciiLower t]

end Names

/-- Two readings of the same names, each of which refuses all of them under a condition, agree
exactly if there are no names or the conditions agree. -/
theorem readings_agree_iff {α : Type} {P Q N : α → Prop} {M M' : Prop}
    (hP : ∀ a, P a ↔ N a ∧ ¬M) (hQ : ∀ a, Q a ↔ N a ∧ ¬M') :
    (∀ a, P a ↔ Q a) ↔ ((∃ a, N a) → (M ↔ M')) := by
  simp only [hP, hQ]
  constructor
  · rintro h ⟨a, ha⟩
    have hrefused := h a
    rwa [and_iff_right ha, and_iff_right ha, not_iff_not] at hrefused
  · intro h a
    by_cases ha : N a
    · rw [h ⟨a, ha⟩]
    · simp [ha]

/-- The name or the keyword of a type is read in any case, as a type and as a column type, unless
the first part of the keyword is in a case of its own. So two texts that differ in the case of
letters only are read alike exactly if they name no type or both or neither have such a part. -/
theorem parse_alike_iff (h : Text.equalIgnoringAsciiCase s t = true) :
    (∀ k, EdmType.parse s = .ok k ↔ EdmType.IsNamed s k ∧ ¬EdmType.HasMixedHeading s) ∧
      ((∀ k, EdmType.parse s = .ok k ↔ EdmType.parse t = .ok k) ↔
        ((∃ k, EdmType.IsNamed s k) →
          (EdmType.HasMixedHeading s ↔ EdmType.HasMixedHeading t))) ∧
      (∀ c, parse s = .ok c ↔ IsNamed s c ∧ ¬EdmType.HasMixedHeading (unmarked s)) ∧
      ((∀ c, parse s = .ok c ↔ parse t = .ok c) ↔
        ((∃ c, IsNamed s c) →
          (EdmType.HasMixedHeading (unmarked s) ↔ EdmType.HasMixedHeading (unmarked t)))) := by
  have hlower := Text.equalIgnoringAsciiCase_iff.mp h
  refine ⟨fun k => EdmType.parse_eq_ok_iff,
    readings_agree_iff (fun k => EdmType.parse_eq_ok_iff) fun k => ?_,
    fun c => parse_eq_ok_iff, readings_agree_iff (fun c => parse_eq_ok_iff) fun c => ?_⟩
  · rw [EdmType.parse_eq_ok_iff, EdmType.isNamed_congr hlower]
  · rw [parse_eq_ok_iff, isNamed_congr hlower]

/-- Both spellings of the first part, behind which every case is read. -/
theorem parse_alike_iff_bothSpellings :
    Text.equalIgnoringAsciiCase " Edm.INT32?" " edm.int32?" = true ∧
      (∀ c, parse " Edm.INT32?" = .ok c ↔ parse " edm.int32?" = .ok c) ∧
      parse " Edm.INT32?" = .ok (.of (.primitive .int32) true) := by
  have hcase : Text.equalIgnoringAsciiCase " Edm.INT32?" " edm.int32?" = true := by
    simp only [Text.equalIgnoringAsciiCase, Text.asciiLower_eq]
    decide
  have hmixed : ∀ text ∈ [" Edm.INT32?", " edm.int32?"],
      ¬EdmType.HasMixedHeading (unmarked text) := by
    simp only [EdmType.HasMixedHeading, Text.asciiLower_eq]
    decide
  have hheadings : EdmType.HasMixedHeading (unmarked " Edm.INT32?") ↔
      EdmType.HasMixedHeading (unmarked " edm.int32?") :=
    iff_of_false (hmixed _ (by decide)) (hmixed _ (by decide))
  have hnamed : EdmType.IsNamed (unmarked " Edm.INT32?") .int32 := by
    simp only [EdmType.IsNamed, Text.asciiLower_eq]
    decide
  have hread : parse " Edm.INT32?" = .ok (.of (.primitive .int32) true) :=
    parse_eq_ok_iff.mpr ⟨⟨_, .primitive hnamed (by decide), rfl⟩, hmixed _ (by decide)⟩
  exact ⟨hcase, (parse_alike_iff hcase).2.2.2.mpr fun _ => hheadings, hread⟩

/-- A keyword in capitals is no type. -/
theorem parse_keywordInCapitals :
    Text.equalIgnoringAsciiCase "Edm.Int32" "EDM.INT32" = true ∧
      EdmType.parse "Edm.Int32" = .ok .int32 ∧
      EdmType.parse "EDM.INT32" = .error (.unknownType "EDM.INT32") ∧
      parse "Edm.Int32" = .ok (.ofEdm .int32) ∧
      parse "EDM.INT32" = .error (.unknownType "EDM.INT32") := by
  simp only [parse, parseKind, EdmType.parse, Text.equalIgnoringAsciiCase, Text.asciiLower_eq]
  exact ⟨rfl, rfl, rfl, rfl, rfl⟩

end ColumnType

end RowQuery
