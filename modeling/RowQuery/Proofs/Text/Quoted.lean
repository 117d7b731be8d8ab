import RowQuery.Text.Quoted

/-!
Quoted texts read back. A quote written twice inside single quotes is a quote of
the text, and any other one ends it. The reader finds exactly the texts that are
written in this way in front of something that does not start with a quote.
-/

namespace RowQuery.Text

/-- The text behind an opening quote, and what stands behind the quote that ends it. -/
def readClosed? : List Char → Option (List Char × List Char)
  | [] => none
  | c :: rest =>
    if c = '\'' then
      match rest with
      | [] => some ([], [])
      | d :: behind =>
        if d = '\'' then (readClosed? behind).map fun (s, after) => ('\'' :: s, after)
        else some ([], d :: behind)
    else (readClosed? rest).map fun (s, after) => (c :: s, after)

def readQuoted? : List Char → Option (List Char × List Char)
  | [] => none
  | c :: rest => if c = '\'' then readClosed? rest else none

variable {c : Char} {cs s rest : List Char}

theorem doubleQuotes_cons (c : Char) (cs : List Char) :
    doubleQuotes (c :: cs) = (if c = '\'' then ['\'', '\''] else [c]) ++ doubleQuotes cs := by
  simp [doubleQuotes]

/-- Every quote makes the text one character longer. -/
theorem length_doubleQuotes (cs : List Char) :
    (doubleQuotes cs).length = cs.length + cs.count '\'' := by
  induction cs with
  | nil => rfl
  | cons c cs ih =>
    rw [doubleQuotes_cons, List.length_append, ih, List.count_cons, List.length_cons]
    by_cases hc : c = '\''
    · simp only [hc, if_true, List.length_cons, List.length_nil, beq_self_eq_true]
      omega
    · simp only [hc, if_false, List.length_singleton, beq_iff_eq]
      omega

theorem doubleQuotes_eq_self_iff : doubleQuotes cs = cs ↔ '\'' ∉ cs := by
  constructor
  · intro h
    have hlength := length_doubleQuotes cs
    rw [h] at hlength
    exact List.count_eq_zero.mp (by omega)
  · intro h
    induction cs with
    | nil => rfl
    | cons c cs ih =>
      rw [List.mem_cons, not_or] at h
      rw [doubleQuotes_cons, if_neg (Ne.symm h.1), ih h.2, List.singleton_append]

theorem readClosed?_cons (hc : c ≠ '\'') (cs : List Char) :
    readClosed? (c :: cs) = (readClosed? cs).map fun (s, after) => (c :: s, after) := by
  rw [readClosed?.eq_def]
  exact if_neg hc

theorem readClosed?_quote_quote (cs : List Char) :
    readClosed? ('\'' :: '\'' :: cs) =
      (readClosed? cs).map fun (s, after) => ('\'' :: s, after) := by
  rw [readClosed?.eq_def]
  rfl

theorem readClosed?_quote (hrest : rest.head? ≠ some '\'') :
    readClosed? ('\'' :: rest) = some ([], rest) := by
  cases rest with
  | nil => rfl
  | cons d behind =>
    have hd : d ≠ '\'' := by simpa using hrest
    rw [readClosed?.eq_def]
    simp [hd]

/-- A text with its quotes doubled is read up to the quote that closes it. -/
theorem readClosed?_doubleQuotes (s : List Char) (hrest : rest.head? ≠ some '\'') :
    readClosed? (doubleQuotes s ++ '\'' :: rest) = some (s, rest) := by
  induction s with
  | nil => exact readClosed?_quote hrest
  | cons c s ih =>
    rw [doubleQuotes_cons]
    by_cases hc : c = '\''
    · subst hc
      rw [if_pos rfl, List.append_assoc, List.cons_append, List.singleton_append,
        readClosed?_quote_quote, ih, Option.map_some]
    · rw [if_neg hc, List.append_assoc, List.singleton_append, readClosed?_cons hc, ih,
        Option.map_some]

/-- Whatever is read had its quotes doubled and a single quote behind it. -/
theorem eq_doubleQuotes_of_readClosed? (cs s : List Char) (h : readClosed? cs = some (s, rest)) :
    cs = doubleQuotes s ++ '\'' :: rest ∧ rest.head? ≠ some '\'' := by
  fun_induction readClosed? cs generalizing s with
  | case1 => cases h
  | case2 =>
    cases h
    exact ⟨rfl, by simp⟩
  | case3 behind ih =>
    obtain ⟨⟨s', rest'⟩, hs', heq⟩ := Option.map_eq_some_iff.mp h
    cases heq
    obtain ⟨rfl, hrest⟩ := ih s' hs'
    exact ⟨rfl, hrest⟩
  | case4 d behind hd =>
    cases h
    exact ⟨rfl, by simpa using hd⟩
  | case5 c behind hc ih =>
    obtain ⟨⟨s', rest'⟩, hs', heq⟩ := Option.map_eq_some_iff.mp h
    cases heq
    obtain ⟨rfl, hrest⟩ := ih s' hs'
    exact ⟨by rw [doubleQuotes_cons, if_neg hc]; rfl, hrest⟩

/-- What is read is exactly what is written in quotes, up to a quote that is not doubled. -/
theorem readQuoted?_eq_some_iff :
    readQuoted? cs = some (s, rest) ↔
      cs = '\'' :: (doubleQuotes s ++ '\'' :: rest) ∧ rest.head? ≠ some '\'' := by
  constructor
  · intro h
    cases cs with
    | nil => cases h
    | cons c cs =>
      rw [readQuoted?] at h
      split at h
      · rename_i hc
        obtain ⟨rfl, hrest⟩ := eq_doubleQuotes_of_readClosed? cs s h
        exact ⟨by rw [hc], hrest⟩
      · cases h
  · rintro ⟨rfl, hrest⟩
    exact readClosed?_doubleQuotes s hrest

/-- A text between quotes is read as what it doubles the quotes of. -/
theorem readQuoted?_between_iff (inner s : List Char) (hrest : rest.head? ≠ some '\'') :
    readQuoted? ('\'' :: (inner ++ '\'' :: rest)) = some (s, rest) ↔ inner = doubleQuotes s := by
  rw [readQuoted?_eq_some_iff]
  simp [hrest]

theorem readQuoted?_literalQuoted (s : String) (hrest : rest.head? ≠ some '\'') :
    readQuoted? ((literalQuoted s).toList ++ rest) = some (s.toList, rest) := by
  rw [literalQuoted, String.toList_ofList, List.append_assoc, List.cons_append,
    List.singleton_append]
  exact (readQuoted?_between_iff _ _ hrest).mpr rfl

end RowQuery.Text
