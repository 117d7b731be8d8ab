import RowQuery.Proofs.Text.Quoted

/-!
Quotes and parentheses in texts. Reading a text from left to right, one knows at
every character whether it stands within quotes and within how many parentheses.
A text in which all of them are closed leads back to where it started, and a list
of such texts without commas of their own is found again when their joined text
is cut at the commas that stand outside.
-/

namespace RowQuery.Text

def isMark (c : Char) : Bool :=
  c = '\'' || c = '(' || c = ')' || c = ','

/-- A text that opens, closes and separates nothing. Letters, digits, underscores and dots are no
marks. -/
def IsUnmarked (cs : List Char) : Prop :=
  ∀ c ∈ cs, isMark c = false

instance (cs : List Char) : Decidable (IsUnmarked cs) :=
  List.decidableBAll (fun c => isMark c = false) cs

section Unmarked

variable {c : Char} {cs ds : List Char}

@[simp] theorem isUnmarked_nil : IsUnmarked [] := by
  simp [IsUnmarked]

@[simp] theorem isUnmarked_cons : IsUnmarked (c :: cs) ↔ isMark c = false ∧ IsUnmarked cs :=
  List.forall_mem_cons

@[simp] theorem isUnmarked_append : IsUnmarked (cs ++ ds) ↔ IsUnmarked cs ∧ IsUnmarked ds :=
  List.forall_mem_append

theorem IsUnmarked.of_subset (h : ds ⊆ cs) (hcs : IsUnmarked cs) : IsUnmarked ds :=
  fun c hc => hcs c (h hc)

theorem IsUnmarked.quote_notMem (h : IsUnmarked cs) : '\'' ∉ cs :=
  fun hquote => absurd (h _ hquote) (by decide)

theorem isMark_of_isAlphanum (hc : c.isAlphanum = true) : isMark c = false := by
  rw [← Bool.not_eq_true, isMark]
  simp only [Bool.or_eq_true, decide_eq_true_eq]
  rintro (((rfl | rfl) | rfl) | rfl)
  all_goals exact absurd hc (by decide)

theorem isUnmarked_of_isAlphanum (h : ∀ c ∈ cs, c.isAlphanum = true) : IsUnmarked cs :=
  fun c hc => isMark_of_isAlphanum (h c hc)

end Unmarked

/-- Where a character stands: within quotes or not, and within how many parentheses. -/
structure Place where
  quoted : Bool
  depth : Nat
deriving DecidableEq, Repr

namespace Place

def outside : Place := ⟨false, 0⟩

/-- The place behind a character. There is none behind a parenthesis that closes nothing, and
parentheses within quotes open and close nothing. -/
def next? (p : Place) (c : Char) : Option Place :=
  if c = '\'' then some { p with quoted := !p.quoted }
  else if p.quoted then some p
  else if c = '(' then some { p with depth := p.depth + 1 }
  else if c = ')' then if p.depth = 0 then none else some { p with depth := p.depth - 1 }
  else some p

def after? (p : Place) (cs : List Char) : Option Place :=
  cs.foldlM next? p

end Place

/-- Every quote and every parenthesis outside quotes has its counterpart. -/
def IsBalanced (text : String) : Prop :=
  Place.outside.after? text.toList = some .outside

/-- The pieces between the commas that stand outside quotes and parentheses. Nothing is cut behind
a parenthesis that closes nothing. -/
def cutFrom (p : Place) : List Char → List (List Char)
  | [] => [[]]
  | c :: rest =>
    if c = ',' ∧ p = .outside then [] :: cutFrom p rest
    else
      match p.next? c with
      | some q => (cutFrom q rest).modifyHead (c :: ·)
      | none => [c :: rest]

def cutItems (text : String) : List String :=
  (cutFrom .outside text.toList).map String.ofList

/-- Texts with all quotes and parentheses closed. The flag says whether commas may stand outside
the parentheses of the text. -/
inductive Nested : Bool → List Char → Prop
  | nil {b : Bool} : Nested b []
  | plain {b : Bool} {c : Char} {cs : List Char} (hc : isMark c = false) (h : Nested b cs) :
    Nested b (c :: cs)
  | comma {cs : List Char} (h : Nested true cs) : Nested true (',' :: cs)
  | quoted {b : Bool} {inner cs : List Char} (hinner : '\'' ∉ inner) (h : Nested b cs) :
    Nested b ('\'' :: (inner ++ '\'' :: cs))
  | parens {b : Bool} {inner cs : List Char} (hinner : Nested true inner) (h : Nested b cs) :
    Nested b ('(' :: (inner ++ ')' :: cs))

section Grammar

variable {b : Bool} {cs ds : List Char}

namespace Nested

theorem append (h : Nested b cs) (h' : Nested b ds) : Nested b (cs ++ ds) := by
  induction h with
  | nil => exact h'
  | plain hc _ ih => exact .plain hc (ih h')
  | comma _ ih => exact .comma (ih h')
  | quoted hinner _ ih =>
    rw [List.cons_append, List.append_assoc, List.cons_append]
    exact .quoted hinner (ih h')
  | parens hinner _ _ ih =>
    rw [List.cons_append, List.append_assoc, List.cons_append]
    exact .parens hinner (ih h')

theorem withCommas (h : Nested b cs) : Nested true cs := by
  induction h with
  | nil => exact .nil
  | plain hc _ ih => exact .plain hc ih
  | comma _ ih => exact .comma ih
  | quoted hinner _ ih => exact .quoted hinner ih
  | parens hinner _ _ ih => exact .parens hinner ih

theorem of_isUnmarked (h : IsUnmarked cs) : Nested b cs := by
  induction cs with
  | nil => exact .nil
  | cons c cs ih =>
    rw [isUnmarked_cons] at h
    exact .plain h.1 (ih h.2)

theorem inQuotes (h : '\'' ∉ cs) : Nested b ('\'' :: (cs ++ ['\''])) :=
  .quoted h .nil

/-- Parentheses hide the commas within them. -/
theorem inParentheses (h : Nested true cs) : Nested b ('(' :: (cs ++ [')'])) :=
  .parens h .nil

theorem intercalate {separator : List Char} {pieces : List (List Char)}
    (hseparator : Nested b separator) (hpieces : ∀ piece ∈ pieces, Nested b piece) :
    Nested b (separator.intercalate pieces) := by
  induction pieces with
  | nil => exact .nil
  | cons first rest ih =>
    rw [List.forall_mem_cons] at hpieces
    cases rest with
    | nil => simpa using hpieces.1
    | cons second rest =>
      rw [List.intercalate_cons_cons]
      exact (hpieces.1.append hseparator).append (ih hpieces.2)

/-- A doubled quote ends one quoted text and begins the next. The induction goes along the text,
with what has been read since the last quote in front of it. -/
theorem doubleQuotes (s : List Char) : Nested b ('\'' :: (doubleQuotes s ++ ['\''])) := by
  suffices hquoted : ∀ inner, '\'' ∉ inner →
      Nested b ('\'' :: (inner ++ (Text.doubleQuotes s ++ ['\'']))) by
    exact hquoted [] (by simp)
  induction s with
  | nil => exact fun inner hinner => .quoted hinner .nil
  | cons c s ih =>
    intro inner hinner
    rw [doubleQuotes_cons]
    by_cases hc : c = '\''
    · rw [if_pos hc]
      exact .quoted hinner (ih [] (by simp))
    · have hlonger : '\'' ∉ inner ++ [c] := by
        simpa using ⟨hinner, Ne.symm hc⟩
      rw [if_neg hc, List.append_assoc, ← List.append_assoc inner]
      exact ih _ hlonger

end Nested

end Grammar

section Texts

variable {b : Bool} {s t inner separator : String} {items : List String}

theorem nested_append (hs : Nested b s.toList) (ht : Nested b t.toList) :
    Nested b (s ++ t).toList := by
  rw [String.toList_append]
  exact hs.append ht

/-- The text between two quotes, behind a word that says how it is meant. -/
theorem nested_between (word : String) (hword : IsUnmarked word.toList)
    (hinner : '\'' ∉ inner.toList) :
    Nested b (word ++ "'" ++ inner ++ "'").toList := by
  have htext : (word ++ "'" ++ inner ++ "'").toList =
      word.toList ++ '\'' :: (inner.toList ++ ['\'']) := by
    simp
  rw [htext]
  exact (Nested.of_isUnmarked hword).append (.inQuotes hinner)

theorem nested_inParentheses (word : String) (hword : IsUnmarked word.toList)
    (hinner : Nested true inner.toList) :
    Nested b (word ++ "(" ++ inner ++ ")").toList := by
  have htext : (word ++ "(" ++ inner ++ ")").toList =
      word.toList ++ '(' :: (inner.toList ++ [')']) := by
    simp
  rw [htext]
  exact (Nested.of_isUnmarked hword).append (.inParentheses hinner)

theorem nested_intercalate (hseparator : Nested b separator.toList)
    (hitems : ∀ item ∈ items, Nested b item.toList) :
    Nested b (String.intercalate separator items).toList := by
  rw [String.toList_intercalate]
  exact .intercalate hseparator (by simpa using hitems)

end Texts

section Scanning

variable {b : Bool} {c : Char} {cs inner : List Char} {p q : Place}

namespace Place

theorem next?_of_isMark_eq_false (hc : isMark c = false) (p : Place) : p.next? c = some p := by
  simp only [isMark, Bool.or_eq_false_iff, decide_eq_false_iff_not] at hc
  obtain ⟨⟨⟨hquote, hopening⟩, hclosing⟩, -⟩ := hc
  rw [next?, if_neg hquote, if_neg hopening, if_neg hclosing, ite_self]

theorem next?_comma (p : Place) : p.next? ',' = some p := by
  simp [next?]

theorem next?_quote (quoted : Bool) (depth : Nat) :
    next? ⟨quoted, depth⟩ '\'' = some ⟨!quoted, depth⟩ := by
  rfl

theorem next?_opening (depth : Nat) : next? ⟨false, depth⟩ '(' = some ⟨false, depth + 1⟩ := by
  rfl

theorem next?_closing (depth : Nat) : next? ⟨false, depth + 1⟩ ')' = some ⟨false, depth⟩ := by
  rfl

theorem next?_quoted (hc : c ≠ '\'') (depth : Nat) :
    next? ⟨true, depth⟩ c = some ⟨true, depth⟩ := by
  rw [next?, if_neg hc, if_pos rfl]

theorem after?_cons (hq : p.next? c = some q) (cs : List Char) :
    p.after? (c :: cs) = q.after? cs := by
  rw [after?, List.foldlM_cons, hq]
  rfl

theorem after?_append (p : Place) (cs ds : List Char) :
    p.after? (cs ++ ds) = (p.after? cs).bind fun q => q.after? ds := by
  rw [after?, List.foldlM_append]
  rfl

theorem after?_quoted (hinner : '\'' ∉ inner) (depth : Nat) :
    after? ⟨true, depth⟩ inner = some ⟨true, depth⟩ := by
  induction inner with
  | nil => rfl
  | cons c inner ih =>
    rw [List.mem_cons, not_or] at hinner
    rw [after?_cons (next?_quoted (Ne.symm hinner.1) depth), ih hinner.2]

/-- A text with all quotes and parentheses closed leads back to its start. -/
theorem after?_nested (h : Nested b cs) (depth : Nat) :
    after? ⟨false, depth⟩ cs = some ⟨false, depth⟩ := by
  induction h generalizing depth with
  | nil => rfl
  | plain hc _ ih => rw [after?_cons (next?_of_isMark_eq_false hc _), ih]
  | comma _ ih => rw [after?_cons (next?_comma _), ih]
  | quoted hinner _ ih =>
    rw [after?_cons (next?_quote _ _), Bool.not_false, after?_append, after?_quoted hinner,
      Option.bind_some, after?_cons (next?_quote _ _), Bool.not_true, ih]
  | parens _ _ ihinner ih =>
    rw [after?_cons (next?_opening _), after?_append, ihinner, Option.bind_some,
      after?_cons (next?_closing _), ih]

end Place

theorem cutFrom_cons (hcomma : c = ',' → p ≠ .outside) (hq : p.next? c = some q)
    (cs : List Char) : cutFrom p (c :: cs) = (cutFrom q cs).modifyHead (c :: ·) := by
  rw [cutFrom, if_neg fun h => hcomma h.1 h.2, hq]

def StaysWhole (p : Place) (cs : List Char) (q : Place) : Prop :=
  ∀ rest, cutFrom p (cs ++ rest) = (cutFrom q rest).modifyHead (cs ++ ·)

namespace StaysWhole

variable {r : Place} {ds : List Char}

theorem nil (p : Place) : StaysWhole p [] p := by
  intro rest
  rw [List.nil_append]
  cases cutFrom p rest <;> rfl

theorem cons (hcomma : c = ',' → p ≠ .outside) (hq : p.next? c = some q)
    (h : StaysWhole q cs r) : StaysWhole p (c :: cs) r := by
  intro rest
  rw [List.cons_append, cutFrom_cons hcomma hq, h, List.modifyHead_modifyHead]
  rfl

theorem append (h : StaysWhole p cs q) (h' : StaysWhole q ds r) :
    StaysWhole p (cs ++ ds) r := by
  intro rest
  rw [List.append_assoc, h, h', List.modifyHead_modifyHead]
  simp only [Function.comp_def, List.append_assoc]

theorem quoted (hinner : '\'' ∉ inner) (depth : Nat) :
    StaysWhole ⟨true, depth⟩ inner ⟨true, depth⟩ := by
  induction inner with
  | nil => exact .nil _
  | cons c inner ih =>
    rw [List.mem_cons, not_or] at hinner
    exact .cons (by simp [Place.outside]) (Place.next?_quoted (Ne.symm hinner.1) depth)
      (ih hinner.2)

/-- No cut falls into a text whose commas, if it has any, stand within parentheses, be it because
the whole text does. -/
theorem nested (h : Nested b cs) (depth : Nat) (hdepth : b = true → 0 < depth) :
    StaysWhole ⟨false, depth⟩ cs ⟨false, depth⟩ := by
  induction h generalizing depth with
  | nil => exact .nil _
  | plain hc _ ih =>
    refine .cons ?_ (Place.next?_of_isMark_eq_false hc _) (ih depth hdepth)
    rintro rfl
    exact absurd hc (by decide)
  | comma _ ih =>
    refine .cons (fun _ houtside => ?_) (Place.next?_comma _) (ih depth hdepth)
    rw [Place.outside, Place.mk.injEq] at houtside
    have := hdepth rfl
    omega
  | quoted hinner _ ih =>
    exact .cons (by simp) (Place.next?_quote _ _) ((StaysWhole.quoted hinner depth).append
      (.cons (by simp) (Place.next?_quote _ _) (ih depth hdepth)))
  | parens _ _ ihinner ih =>
    exact .cons (by simp) (Place.next?_opening _) ((ihinner (depth + 1) fun _ => by omega).append
      (.cons (by simp) (Place.next?_closing _) (ih depth hdepth)))

end StaysWhole

end Scanning

section Lists

/-- Pieces without commas outside parentheses and quotes are cut apart where they were joined. -/
theorem cutFrom_intercalate {pieces : List (List Char)} (hne : pieces ≠ [])
    (hpieces : ∀ piece ∈ pieces, Nested false piece) :
    cutFrom .outside ([','].intercalate pieces) = pieces := by
  induction pieces with
  | nil => exact absurd rfl hne
  | cons first rest ih =>
    rw [List.forall_mem_cons] at hpieces
    have hfirst : StaysWhole .outside first .outside := .nested hpieces.1 0 (by simp)
    cases rest with
    | nil => simpa [cutFrom] using hfirst []
    | cons second rest =>
      rw [List.intercalate_cons_cons, List.append_assoc, hfirst, List.singleton_append, cutFrom,
        if_pos ⟨rfl, rfl⟩, ih (by simp) hpieces.2, List.modifyHead_cons, List.append_nil]

/-- A list of texts with all quotes and parentheses closed and no commas of their own is closed as
well and is cut into these texts. -/
theorem isBalanced_and_cutItems_intercalate {items : List String} (hne : items ≠ [])
    (hitems : ∀ item ∈ items, Nested false item.toList) :
    IsBalanced (String.intercalate "," items) ∧
      cutItems (String.intercalate "," items) = items := by
  constructor
  · exact Place.after?_nested (nested_intercalate (.comma .nil) fun item hitem =>
      (hitems item hitem).withCommas) 0
  · have hcomma : ",".toList = [','] := rfl
    rw [cutItems, String.toList_intercalate, hcomma,
      cutFrom_intercalate (by simpa using hne) (by simpa using hitems), List.map_map]
    simp

example : cutItems "f(a, 'b,'''),c" = ["f(a, 'b,''')", "c"] := by decide

end Lists

end RowQuery.Text
