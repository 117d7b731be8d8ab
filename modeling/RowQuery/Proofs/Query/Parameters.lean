import RowQuery.Proofs.Query.Obtainable
import RowQuery.Proofs.Text.FormEncoding
import RowQuery.Proofs.Text.Split

/-!
Query strings read back. A reader that knows nothing of queries cuts the string
at its separators and decodes the values. It finds the options of the query as
they were written, in a fixed order of names, and no option that a value could
have brought in.
-/

namespace RowQuery

theorem mapM_eq_some_map {α β : Type} {f : α → Option β} {g : α → β} {xs : List α}
    (h : ∀ x ∈ xs, f x = some (g x)) : xs.mapM f = some (xs.map g) := by
  induction xs with
  | nil => rfl
  | cons x xs ih =>
    rw [List.forall_mem_cons] at h
    simp only [List.mapM_cons, h.1, ih h.2, Option.bind_eq_bind, Option.bind_some, List.map_cons,
      Option.pure_def]

namespace Query

def optionNames : List String :=
  ["$filter", "$orderby", "$top", "$skip", "$format", "$inlinecount", "$select"]

def cutParam? (piece : List Char) : Option (String × String) :=
  (Text.splitFirst? '=' piece).map fun (name, value) => (String.ofList name, String.ofList value)

/-- The names and encoded values of a query string. There are none behind a lone question mark. -/
def cutParams? (text : String) : Option (List (String × String)) :=
  match text.toList with
  | '?' :: rest => if rest.isEmpty then some [] else (Text.splitAll '&' rest).mapM cutParam?
  | _ => none

def decodeParams? (encoded : List (String × String)) : Option (List (String × String)) :=
  encoded.mapM fun (name, value) => (Text.formDecode? value).map fun t => (name, t)

theorem param_names_sublist (name : String) (text : Option String) :
    ((param name text).map Prod.fst).Sublist [name] := by
  cases text <;> simp [param]

theorem listParam_names_sublist (name : String) (texts : List String) :
    ((listParam name texts).map Prod.fst).Sublist [name] := by
  rw [listParam]
  split <;> simp

/-- The options come in one order, each at most once. -/
theorem paramsWith_names_sublist (q : Query) (filter : Option String) (orderBy : List String) :
    ((q.paramsWith filter orderBy).map Prod.fst).Sublist optionNames := by
  simp only [paramsWith, List.map_append]
  exact (((((param_names_sublist _ _).append (listParam_names_sublist _ _)).append
    (param_names_sublist _ _)).append (param_names_sublist _ _)).append
    (param_names_sublist _ _)).append (param_names_sublist _ _) |>.append
    (listParam_names_sublist _ _)

theorem params?_names_sublist {q : Query} {params : List (String × String)}
    (h : q.params? = some params) : (params.map Prod.fst).Sublist optionNames := by
  obtain ⟨filter, orderBy, -, rfl⟩ := exists_of_params?_eq_some h
  exact q.paramsWith_names_sublist filter orderBy

/-- No name has a character that separates options or ends a name. -/
theorem separators_notMem_of_mem_optionNames {name : String} (h : name ∈ optionNames) :
    '&' ∉ name.toList ∧ '=' ∉ name.toList := by
  have hall : ∀ name ∈ optionNames, '&' ∉ name.toList ∧ '=' ∉ name.toList := by decide
  exact hall name h

section Reading

variable {params : List (String × String)}

def encodePiece (p : String × String) : List Char :=
  p.1.toList ++ '=' :: (Text.formEncode p.2).toList

theorem toList_encode (params : List (String × String)) :
    (encode params).toList = '?' :: ['&'].intercalate (params.map encodePiece) := by
  have hpieces : params.map encodePiece =
      (params.map fun p => p.1 ++ "=" ++ Text.formEncode p.2).map String.toList := by
    simp [encodePiece]
  rw [hpieces, encode, String.toList_append, String.toList_intercalate]
  rfl

theorem cutParam?_encodePiece {p : String × String} (hp : p.1 ∈ optionNames) :
    cutParam? (encodePiece p) = some (p.1, Text.formEncode p.2) := by
  rw [cutParam?, encodePiece,
    Text.splitFirst?_append_cons (separators_notMem_of_mem_optionNames hp).2]
  simp

/-- The ampersand within a value is escaped. -/
theorem separator_notMem_encodePiece {p : String × String} (hp : p.1 ∈ optionNames) :
    '&' ∉ encodePiece p := by
  intro h
  rw [encodePiece, List.mem_append, List.mem_cons] at h
  rcases h with hname | heq | hvalue
  · exact (separators_notMem_of_mem_optionNames hp).1 hname
  · exact absurd heq (by decide)
  · exact absurd (Text.isFormChar_formEncode hvalue) (by decide)

/-- The pieces of a query string are those that it was joined from. -/
theorem splitAll_encode (hne : params ≠ []) (hparams : ∀ p ∈ params, p.1 ∈ optionNames) :
    Text.splitAll '&' (['&'].intercalate (params.map encodePiece)) = params.map encodePiece := by
  refine Text.splitAll_intercalate (by simpa using hne) fun piece hpiece => ?_
  obtain ⟨p, hp, rfl⟩ := List.mem_map.mp hpiece
  exact separator_notMem_encodePiece (hparams p hp)

/-- Options leave a text behind the question mark, so that it is not taken for none: an empty text
would be cut into one empty piece, and no option is written as nothing. -/
theorem intercalate_encodePiece_ne_nil (hne : params ≠ [])
    (hparams : ∀ p ∈ params, p.1 ∈ optionNames) :
    ['&'].intercalate (params.map encodePiece) ≠ [] := by
  intro hempty
  have hpieces := splitAll_encode hne hparams
  rw [hempty] at hpieces
  obtain ⟨p, rest, rfl⟩ := List.exists_cons_of_ne_nil hne
  simp [Text.splitAll, encodePiece] at hpieces

/-- The text is cut into the names and the encoded values of its options. -/
theorem cutParams?_encode (hparams : ∀ p ∈ params, p.1 ∈ optionNames) :
    cutParams? (encode params) = some (params.map fun p => (p.1, Text.formEncode p.2)) := by
  rw [cutParams?, toList_encode]
  by_cases hne : params = []
  · subst hne
    rfl
  · have hrest := intercalate_encodePiece_ne_nil hne hparams
    simp only [List.isEmpty_iff, if_neg hrest, splitAll_encode hne hparams, List.mapM_map]
    exact mapM_eq_some_map fun p hp => cutParam?_encodePiece (hparams p hp)

/-- Decoding the values gives the options back. -/
theorem decodeParams?_formEncode (params : List (String × String)) :
    decodeParams? (params.map fun p => (p.1, Text.formEncode p.2)) = some params := by
  rw [decodeParams?, List.mapM_map,
    mapM_eq_some_map (g := id) fun p _ => by simp [Text.formDecode?_formEncode], List.map_id]

end Reading

/-- The string of a query reads back as the options of the query. Their names come in the fixed
order, and no value has a character outside those of encoded texts. -/
theorem decodeParams?_cutParams?_text {q : Query} (hq : q.Obtainable) :
    ∃ params text encoded, q.params? = some params ∧ q.text? = some text ∧
      text.toList.head? = some '?' ∧ cutParams? text = some encoded ∧
      decodeParams? encoded = some params ∧
      (params.map Prod.fst).Sublist optionNames ∧
      ∀ p ∈ encoded, ∀ c ∈ p.2.toList, Text.isFormChar c = true := by
  obtain ⟨params, hparams⟩ := hq.exists_params?
  have hnames := params?_names_sublist hparams
  have hmem : ∀ p ∈ params, p.1 ∈ optionNames := fun p hp =>
    hnames.subset (List.mem_map_of_mem hp)
  refine ⟨params, encode params, _, hparams, by rw [text?, hparams, Option.map_some],
    by rw [toList_encode, List.head?_cons], cutParams?_encode hmem,
    decodeParams?_formEncode params, hnames, ?_⟩
  simp only [List.mem_map]
  rintro - ⟨p, -, rfl⟩ c hc
  exact Text.isFormChar_formEncode hc

def spacedFormatUpdate : Update where
  top := .set (some 10)
  format := .set (some "a b&$top=1+é%")

def spacedFormat : Query :=
  ⟨none, [], some 10, 0, some "a b&$top=1+é%", .none, []⟩

theorem decodeParams?_cutParams?_text_spacedFormat :
    spacedFormat.Obtainable ∧
      spacedFormat.text? = some "?$top=10&$format=a+b%26%24top%3d1%2b%c3%a9%25" ∧
      ∃ params text encoded, spacedFormat.params? = some params ∧
        spacedFormat.text? = some text ∧ text.toList.head? = some '?' ∧
        cutParams? text = some encoded ∧ decodeParams? encoded = some params ∧
        (params.map Prod.fst).Sublist optionNames ∧
        ∀ p ∈ encoded, ∀ c ∈ p.2.toList, Text.isFormChar c = true := by
  have hquery : spacedFormat.Obtainable := by
    refine .update spacedFormatUpdate .empty ?_ ?_ ?_ rfl
    all_goals
      intro value hvalue
      cases hvalue
  exact ⟨hquery, by decide +kernel, decodeParams?_cutParams?_text hquery⟩

end Query

end RowQuery
