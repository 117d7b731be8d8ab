import RowQuery.Text.Search

/-!
Cutting what was joined. Pieces without the separator are found again when a
text joined from them is cut, and a text is cut at its first separator exactly
behind a part that has none.
-/

namespace RowQuery.Text

variable {separator : Char}

theorem splitAll_eq_splitOn (separator : Char) (cs : List Char) :
    splitAll separator cs = cs.splitOn separator := by
  induction cs with
  | nil => rfl
  | cons c cs ih =>
    obtain ⟨first, others, hcs⟩ :=
      List.exists_cons_of_ne_nil (List.splitOnP_ne_nil (fun x => x == separator) cs)
    simp only [splitAll, ih, List.splitOn, List.splitOnP_cons_eq_if_modifyHead, hcs,
      List.modifyHead_cons, beq_iff_eq]

/-- Cutting a text at the separator undoes joining pieces with it. -/
theorem splitAll_intercalate {pieces : List (List Char)} (hne : pieces ≠ [])
    (hpieces : ∀ piece ∈ pieces, separator ∉ piece) :
    splitAll separator ([separator].intercalate pieces) = pieces := by
  rw [splitAll_eq_splitOn]
  exact List.splitOn_intercalate separator hpieces hne

theorem splitFirst?_append_cons {before : List Char} (hbefore : separator ∉ before)
    (after : List Char) :
    splitFirst? separator (before ++ separator :: after) = some (before, after) := by
  rw [splitFirst?]
  induction before with
  | nil => simp [splitFirstWhere?]
  | cons c before ih =>
    rw [List.mem_cons, not_or] at hbefore
    rw [List.cons_append, splitFirstWhere?, if_neg (by simpa using Ne.symm hbefore.1),
      ih hbefore.2, Option.map_some]

end RowQuery.Text
