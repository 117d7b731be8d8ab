import Mathlib.Data.List.Perm.Basic
import RowQuery.Proofs.Json.RoundTrip

/-!
Values as JSON data and back. Objects keep their entries in the order of names, so
columns may come back in another order. Nothing else happens to a value for which
JSON has a notation: different columns have different names, so no entry takes the
place of another one, and they have different keys, so no column does later.
-/

namespace RowQuery

/-- Values with a notation of their own in JSON: null, truth values, integers of sixty-four bits,
finite binary numbers and strings, and lists and rows of such values. -/
inductive Value.Plain : Value → Prop
  | null : Plain .null
  | boolean (b : Bool) : Plain (.boolean b)
  | int64 (n : Int64) : Plain (.int64 n)
  | double {x : Double} (h : x.isFinite = true) : Plain (.double x)
  | string (s : String) : Plain (.string s)
  | list {items : List Value} (h : ∀ v ∈ items, Plain v) : Plain (.list items)
  | row {pairs : List (String × Value)}
    (h : ∀ column ∈ (Row.ofList pairs).columns, Plain column.2) : Plain (.row (.ofList pairs))

mutual

/-- The same value but for the order of columns in the rows in it. -/
inductive Value.Reordered : Value → Value → Prop
  | same (v : Value) : Value.Reordered v v
  | list {vs ws : List Value} (h : Value.ItemsReordered vs ws) :
    Value.Reordered (.list vs) (.list ws)
  | row {r s : Row} {columns : List (String × Value)} (hperm : r.columns.Perm columns)
    (h : Value.ColumnsReordered columns s.columns) : Value.Reordered (.row r) (.row s)

inductive Value.ItemsReordered : List Value → List Value → Prop
  | nil : Value.ItemsReordered [] []
  | cons {v w : Value} {vs ws : List Value} (h : Value.Reordered v w)
    (hs : Value.ItemsReordered vs ws) : Value.ItemsReordered (v :: vs) (w :: ws)

inductive Value.ColumnsReordered : List (String × Value) → List (String × Value) → Prop
  | nil : Value.ColumnsReordered [] []
  | cons (name : String) {v w : Value} {vs ws : List (String × Value)} (h : Value.Reordered v w)
    (hs : Value.ColumnsReordered vs ws) : Value.ColumnsReordered ((name, v) :: vs) ((name, w) :: ws)

end

namespace Json

section Entries

variable {key : String} {value : Json} {sorted entries : List (String × Json)}

/-- An entry with a new key takes the place of none. -/
theorem perm_insertEntry (h : key ∉ entries.map Prod.fst) :
    (insertEntry key value entries).Perm ((key, value) :: entries) := by
  induction entries with
  | nil => exact List.Perm.refl _
  | cons entry rest ih =>
    obtain ⟨k, v⟩ := entry
    rw [List.map_cons, List.mem_cons, not_or] at h
    unfold insertEntry
    split_ifs with hlt hgt
    · exact List.Perm.refl _
    · exact ((ih h.2).cons _).trans (List.Perm.swap ..)
    · exact absurd (String.le_antisymm (String.not_lt.mp hgt) (String.not_lt.mp hlt)) h.1

/-- An object keeps all entries whose keys differ. -/
theorem perm_insertEntries (h : ((sorted ++ entries).map Prod.fst).Nodup) :
    (insertEntries sorted entries).Perm (sorted ++ entries) := by
  induction entries generalizing sorted with
  | nil => simp [insertEntries]
  | cons entry rest ih =>
    have hnew : entry.1 ∉ sorted.map Prod.fst := by
      rw [List.map_append, List.nodup_append] at h
      exact fun hmem => h.2.2 _ hmem _ (List.mem_cons_self ..) rfl
    have hfirst : (insertEntry entry.1 entry.2 sorted).Perm (sorted ++ [entry]) :=
      (perm_insertEntry hnew).trans (List.perm_append_singleton ..).symm
    rw [List.append_cons] at h ⊢
    exact (ih (((hfirst.append_right rest).map Prod.fst).nodup_iff.mpr h)).trans
      (hfirst.append_right rest)

end Entries

theorem toEntries_eq_map (columns : List (String × Value)) :
    Value.toEntries columns = columns.map fun column => (column.1, column.2.toJson) := by
  induction columns with
  | nil => rfl
  | cons column rest ih => simp [Value.toEntries, ih]

/-- Columns with different keys become the entries of an object in some order of the columns. -/
theorem exists_perm_toEntries {r : Row} (h : (columnKeys r.columns).Nodup) :
    ∃ sorted : List (String × Value), r.columns.Perm sorted ∧
      (Value.row r).toJson = .object (Value.toEntries sorted) := by
  obtain ⟨columns⟩ := r
  have hnames : ((Value.toEntries columns).map Prod.fst).Nodup := by
    rw [map_fst_toEntries]
    rw [columnKeys_eq] at h
    exact h.of_map
  have hperm : (insertEntries [] (Value.toEntries columns)).Perm (Value.toEntries columns) :=
    perm_insertEntries hnames
  rw [toEntries_eq_map] at hperm
  obtain ⟨sorted, hsorted, hcolumns⟩ := (congr_fun₂ (List.eq_map_comp_perm _) _ _).mpr hperm
  refine ⟨sorted, hcolumns.symm, ?_⟩
  rw [Value.toJson, ofEntries_eq, toEntries_eq_map sorted, ← hsorted, toEntries_eq_map]

end Json

namespace Value

theorem ColumnsReordered.columnKeys_eq :
    {vs ws : List (String × Value)} → ColumnsReordered vs ws → columnKeys vs = columnKeys ws
  | _, _, .nil => rfl
  | _, _, .cons name _ hs => congrArg (columnKey name :: ·) hs.columnKeys_eq

/-- The JSON data of the value has a value, which is the same but for the order of columns. -/
def Returns (v : Value) : Prop :=
  ∃ w, v.toJson.asValue = .ok w ∧ v.Reordered w

theorem returns_int64 (n : Int64) : (int64 n).Returns := by
  have hlow := Int64.le_toInt n
  have hhigh := Int64.toInt_lt n
  have hholds : EdmType.int64.holdsInteger n.toInt = true := by
    simp [EdmType.holdsInteger, EdmType.integerBounds?]
    omega
  refine ⟨.int64 (Int64.ofInt n.toInt), if_pos hholds, ?_⟩
  rw [Int64.ofInt_toInt]
  exact .same _

theorem returns_double {x : Double} (h : x.isFinite = true) : (double x).Returns := by
  refine ⟨.double x, ?_, .same _⟩
  rw [toJson, Json.ofDouble, if_pos h, Json.asValue]

theorem asValues_toItems {items : List Value} (h : ∀ v ∈ items, v.Returns) :
    ∃ ws, Json.asValues (toItems items) = .ok ws ∧ ItemsReordered items ws := by
  induction items with
  | nil => exact ⟨[], rfl, .nil⟩
  | cons v rest ih =>
    rw [List.forall_mem_cons] at h
    obtain ⟨w, hw, hvw⟩ := h.1
    obtain ⟨ws, hws, hrest⟩ := ih h.2
    refine ⟨w :: ws, ?_, .cons hvw hrest⟩
    rw [toItems, Json.asValues, hw, hws]
    rfl

/-- Columns come back under their names, in the order of the object. -/
theorem asColumns_toEntries {columns : List (String × Value)} (h : ∀ c ∈ columns, c.2.Returns) :
    ∃ ws, Json.asColumns (toEntries columns) = .ok ws ∧ ColumnsReordered columns ws := by
  induction columns with
  | nil => exact ⟨[], rfl, .nil⟩
  | cons column rest ih =>
    rw [List.forall_mem_cons] at h
    obtain ⟨w, hw, hvw⟩ := h.1
    obtain ⟨ws, hws, hrest⟩ := ih h.2
    refine ⟨(column.1, w) :: ws, ?_, .cons column.1 hvw hrest⟩
    rw [toEntries, Json.asColumns, hw, hws]
    rfl

theorem returns_list {items : List Value} (h : ∀ v ∈ items, v.Returns) : (list items).Returns := by
  obtain ⟨ws, hws, hitems⟩ := asValues_toItems h
  refine ⟨.list ws, ?_, .list hitems⟩
  rw [toJson, Json.asValue, hws]
  rfl

/-- A row comes back with its columns in another order, in which their keys are still different. -/
theorem returns_row {r : Row} (hnodup : (columnKeys r.columns).Nodup)
    (h : ∀ column ∈ r.columns, column.2.Returns) : (row r).Returns := by
  obtain ⟨sorted, hperm, hjson⟩ := Json.exists_perm_toEntries hnodup
  obtain ⟨ws, hws, hcolumns⟩ := asColumns_toEntries fun column hc => h column (hperm.mem_iff.mpr hc)
  have hkeys : (columnKeys ws).Nodup := by
    rw [← hcolumns.columnKeys_eq]
    exact (hperm.map _).nodup_iff.mp hnodup
  refine ⟨.row (.ofList ws), ?_, .row hperm ?_⟩
  · rw [hjson, Json.asValue, hws]
    rfl
  · rwa [Row.columns_ofList_of_nodup hkeys]

end Value

/-- A value with a notation of its own in JSON comes back from its JSON data as it was, but for the
order of columns in the rows in it. -/
theorem Value.Plain.asValue_toJson {v : Value} (h : v.Plain) :
    ∃ w, v.toJson.asValue = .ok w ∧ v.Reordered w := by
  induction h with
  | null => exact ⟨.null, rfl, .same _⟩
  | boolean b => exact ⟨.boolean b, rfl, .same _⟩
  | int64 n => exact returns_int64 n
  | double h => exact returns_double h
  | string s => exact ⟨.string s, rfl, .same _⟩
  | list _ ih => exact returns_list ih
  | row _ ih => exact returns_row (Row.nodup_columnKeys_ofList _) ih

def Value.drawer : Value :=
  .row (.ofList [("b", .boolean true), ("A", .string "")])

def Value.shelf : Value :=
  .row (.ofList [("size", .int64 3), ("Price", .double ⟨0x4008000000000000⟩),
    ("debt", .double ⟨0x8000000000000000⟩), ("Parts", .list [.null, .drawer])])

theorem Value.Plain.asValue_toJson_shelf :
    Value.shelf.Plain ∧ ∃ w, Value.shelf.toJson.asValue = .ok w ∧ Value.shelf.Reordered w := by
  have hdrawer : Value.drawer.Plain := by
    refine .row ?_
    rw [Row.columns_ofList_of_nodup (by decide)]
    simp only [List.forall_mem_cons]
    exact ⟨.boolean true, .string "", by simp⟩
  have hparts : (Value.list [.null, .drawer]).Plain := by
    refine .list ?_
    simp only [List.forall_mem_cons]
    exact ⟨.null, hdrawer, by simp⟩
  have hshelf : Value.shelf.Plain := by
    refine .row ?_
    rw [Row.columns_ofList_of_nodup (by decide)]
    simp only [List.forall_mem_cons]
    exact ⟨.int64 3, .double (by decide), .double (by decide), hparts, by simp⟩
  exact ⟨hshelf, Value.Plain.asValue_toJson hshelf⟩

end RowQuery
