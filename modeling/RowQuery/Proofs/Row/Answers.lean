import RowQuery.Proofs.Row.Index

/-!
Rows by what they answer. A row shows the value of a column under every spelling
of its name, but neither the spelling it keeps itself nor the place of the column.
Rows answer alike exactly if they have the same values under the same keys.
-/

namespace RowQuery.Row

/-- Rows that have the same value for every name, or neither has one. -/
def AnswersAs (r s : Row) : Prop :=
  ∀ name, r.value? name = s.value? name

def keyed (row : Row) : List (String × Value) :=
  row.columns.map fun column => (columnKey column.1, column.2)

section Answers

variable {row r s : Row} {name : String} {v : Value}

theorem map_fst_keyed (row : Row) : row.keyed.map Prod.fst = columnKeys row.columns := by
  rw [keyed, List.map_map]
  rfl

theorem nodup_keyed (hnodup : (columnKeys row.columns).Nodup) : row.keyed.Nodup := by
  rw [← map_fst_keyed] at hnodup
  exact hnodup.of_map _

/-- A name leads to the value under its key. -/
theorem value?_eq_some_iff (hnodup : (columnKeys row.columns).Nodup) :
    row.value? name = some v ↔ (columnKey name, v) ∈ row.keyed := by
  simp only [value?, Option.bind_eq_some_iff, Option.map_eq_some_iff]
  constructor
  · rintro ⟨i, hi, ⟨n, w⟩, hcolumn, rfl⟩
    have hkey := (position?_eq_some_iff hnodup).mp hi
    rw [columnKeys, List.getElem?_map, hcolumn] at hkey
    have hn : columnKey n = columnKey name := Option.some.inj hkey
    rw [← hn]
    exact List.mem_map_of_mem (List.mem_of_getElem? hcolumn)
  · intro hmem
    obtain ⟨⟨n, w⟩, hcolumn, heq⟩ := List.mem_map.mp hmem
    obtain ⟨hn, rfl⟩ := Prod.mk.inj heq
    obtain ⟨i, hi⟩ := List.mem_iff_getElem?.mp hcolumn
    refine ⟨i, (position?_eq_some_iff hnodup).mpr ?_, (n, w), hi, rfl⟩
    rw [columnKeys, List.getElem?_map, hi, ← hn]
    rfl

theorem AnswersAs.symm (h : r.AnswersAs s) : s.AnswersAs r :=
  fun name => (h name).symm

/-- Rows that answer alike have the same columns under folded names. -/
theorem AnswersAs.keyed_subset (h : r.AnswersAs s) (hr : (columnKeys r.columns).Nodup)
    (hs : (columnKeys s.columns).Nodup) : r.keyed ⊆ s.keyed := by
  intro entry hentry
  obtain ⟨column, -, rfl⟩ := List.mem_map.mp hentry
  rw [← value?_eq_some_iff hs, ← h column.1, value?_eq_some_iff hr]
  exact hentry

/-- Rows answer alike exactly if their columns are the same but for order and spelling. -/
theorem answersAs_iff_perm (hr : (columnKeys r.columns).Nodup)
    (hs : (columnKeys s.columns).Nodup) : r.AnswersAs s ↔ r.keyed.Perm s.keyed := by
  rw [List.perm_ext_iff_of_nodup (nodup_keyed hr) (nodup_keyed hs)]
  constructor
  · intro h entry
    exact ⟨fun hentry => h.keyed_subset hr hs hentry,
      fun hentry => h.symm.keyed_subset hs hr hentry⟩
  · intro h name
    refine Option.ext fun v => ?_
    rw [value?_eq_some_iff hr, value?_eq_some_iff hs, h]

end Answers

end RowQuery.Row
