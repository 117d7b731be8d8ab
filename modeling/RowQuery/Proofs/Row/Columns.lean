import Mathlib.Data.List.Nodup
import Mathlib.Data.List.Perm.Subperm
import RowQuery.Row

/-!
How a row comes about. A column goes behind the others if its key is new and
takes the place of the column with its key otherwise, so keys never repeat.
Columns with different keys are all kept as they are, in their order.
-/

namespace RowQuery

def columnKeys {α : Type} (named : List (String × α)) : List String :=
  named.map fun entry => columnKey entry.1

section Keys

variable {α : Type} {entry : String × α} {named : List (String × α)}

@[simp] theorem columnKeys_cons (entry : String × α) (named : List (String × α)) :
    columnKeys (entry :: named) = columnKey entry.1 :: columnKeys named := rfl

@[simp] theorem columnKeys_concat (named : List (String × α)) (entry : String × α) :
    columnKeys (named ++ [entry]) = columnKeys named ++ [columnKey entry.1] :=
  List.map_append

theorem columnKey_mem (h : entry ∈ named) : columnKey entry.1 ∈ columnKeys named :=
  List.mem_map_of_mem h

end Keys

namespace Row

variable {name : String} {value : Value} {columns pairs : List (String × Value)}
variable {keys : List String}

def putColumns (columns pairs : List (String × Value)) : List (String × Value) :=
  pairs.foldl (fun columns (name, value) => putColumn name value columns) columns

theorem columns_ofList (pairs : List (String × Value)) :
    (ofList pairs).columns = putColumns [] pairs := rfl

theorem putColumn_of_notMem (h : columnKey name ∉ columnKeys columns) :
    putColumn name value columns = columns ++ [(name, value)] := by
  induction columns with
  | nil => rfl
  | cons column rest ih =>
    simp only [columnKeys, List.map_cons, List.mem_cons, not_or] at h
    simp only [putColumn, if_neg (Ne.symm h.1), ih h.2, List.cons_append]

theorem columnKeys_putColumn_of_mem (h : columnKey name ∈ columnKeys columns) :
    columnKeys (putColumn name value columns) = columnKeys columns := by
  induction columns with
  | nil => simp [columnKeys] at h
  | cons column rest ih =>
    obtain ⟨n, v⟩ := column
    by_cases hn : columnKey n = columnKey name
    · simp [putColumn, columnKeys, hn]
    · have hrest : columnKey name ∈ columnKeys rest := by
        simpa [columnKeys, Ne.symm hn] using h
      simp only [putColumn, if_neg hn, columnKeys, List.map_cons] at ih ⊢
      rw [ih hrest]

theorem columnKeys_putColumn_of_notMem (h : columnKey name ∉ columnKeys columns) :
    columnKeys (putColumn name value columns) = columnKeys columns ++ [columnKey name] := by
  rw [putColumn_of_notMem h]
  simp [columnKeys]

theorem nodup_putColumn (h : (columnKeys columns).Nodup) :
    (columnKeys (putColumn name value columns)).Nodup := by
  by_cases hname : columnKey name ∈ columnKeys columns
  · rwa [columnKeys_putColumn_of_mem hname]
  · rw [columnKeys_putColumn_of_notMem hname, ← List.concat_eq_append]
    exact h.concat hname

theorem columnKeys_putColumn_subset (h : columnKey name ∈ keys)
    (hcolumns : columnKeys columns ⊆ keys) :
    columnKeys (putColumn name value columns) ⊆ keys := by
  by_cases hname : columnKey name ∈ columnKeys columns
  · rwa [columnKeys_putColumn_of_mem hname]
  · rw [columnKeys_putColumn_of_notMem hname]
    exact List.append_subset.mpr ⟨hcolumns, List.cons_subset.mpr ⟨h, List.nil_subset _⟩⟩

/-- Keys stay different, whatever is put. -/
theorem nodup_putColumns (h : (columnKeys columns).Nodup) :
    (columnKeys (putColumns columns pairs)).Nodup := by
  induction pairs generalizing columns with
  | nil => exact h
  | cons pair rest ih => exact ih (nodup_putColumn h)

theorem columnKeys_putColumns_subset (h : columnKeys pairs ⊆ keys)
    (hcolumns : columnKeys columns ⊆ keys) : columnKeys (putColumns columns pairs) ⊆ keys := by
  induction pairs generalizing columns with
  | nil => exact hcolumns
  | cons pair rest ih =>
    obtain ⟨hpair, hrest⟩ := List.cons_subset.mp h
    exact ih hrest (columnKeys_putColumn_subset hpair hcolumns)

/-- New columns go to the end in their order. -/
theorem putColumns_of_nodup (h : (columnKeys (columns ++ pairs)).Nodup) :
    putColumns columns pairs = columns ++ pairs := by
  induction pairs generalizing columns with
  | nil => simp [putColumns]
  | cons pair rest ih =>
    have hpair : columnKey pair.1 ∉ columnKeys columns := by
      rw [columnKeys, List.map_append, List.nodup_append] at h
      exact fun hmem => h.2.2 _ hmem _ (List.mem_cons_self ..) rfl
    rw [List.append_cons] at h ⊢
    rw [← ih h, ← putColumn_of_notMem hpair]
    rfl

/-- No two columns of a row that is made of pairs have the same key. -/
theorem nodup_columnKeys_ofList (pairs : List (String × Value)) :
    (columnKeys (ofList pairs).columns).Nodup := by
  rw [columns_ofList]
  exact nodup_putColumns List.nodup_nil

theorem columns_ofList_of_nodup (h : (columnKeys pairs).Nodup) :
    (ofList pairs).columns = pairs := by
  rw [columns_ofList]
  exact putColumns_of_nodup h

/-- Every pair has a column of its own exactly if no two have the same key. -/
theorem length_le_columns_ofList_iff (pairs : List (String × Value)) :
    pairs.length ≤ (ofList pairs).columns.length ↔ (columnKeys pairs).Nodup := by
  constructor
  · intro h
    have hsubset : columnKeys (ofList pairs).columns ⊆ columnKeys pairs := by
      rw [columns_ofList]
      exact columnKeys_putColumns_subset (List.Subset.refl _) (List.nil_subset _)
    have hperm : (columnKeys (ofList pairs).columns).Perm (columnKeys pairs) :=
      ((nodup_columnKeys_ofList pairs).subperm hsubset).perm_of_length_le
        (by simpa [columnKeys] using h)
    exact hperm.nodup (nodup_columnKeys_ofList pairs)
  · intro h
    exact Nat.le_of_eq (congrArg List.length (columns_ofList_of_nodup h)).symm

end Row

end RowQuery
