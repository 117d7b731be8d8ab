import RowQuery.Proofs.Keys
import RowQuery.Proofs.Row.Columns

/-!
Rows with an index next to their columns. The index is kept up column by column;
after every step it has the place of each column under its key and nothing else,
so a place that it gives is the place of a column. Of the pairs with one key, the
first gives the place of the column, and the last its spelling and its value.
-/

namespace RowQuery.Row

section Places

variable {name : String} {value : Value} {columns : List (String × Value)} {i : Nat} {row : Row}

theorem columnKeys_set (h : (columnKeys columns)[i]? = some (columnKey name)) :
    columnKeys (columns.set i (name, value)) = columnKeys columns := by
  obtain ⟨hlt, hkey⟩ := List.getElem?_eq_some_iff.mp h
  rw [columnKeys, List.map_set, ← hkey]
  exact List.set_getElem_self hlt

/-- A column is written in the place of its key, if that is known. -/
theorem putColumn_eq_set (hnodup : (columnKeys columns).Nodup)
    (h : (columnKeys columns)[i]? = some (columnKey name)) :
    putColumn name value columns = columns.set i (name, value) := by
  induction columns generalizing i with
  | nil => simp [columnKeys] at h
  | cons column rest ih =>
    obtain ⟨n, v⟩ := column
    rw [columnKeys_cons, List.nodup_cons] at hnodup
    obtain ⟨hnew, hrest⟩ := hnodup
    cases i with
    | zero =>
      have hn : columnKey n = columnKey name := Option.some.inj h
      rw [putColumn, if_pos hn, List.set_cons_zero]
    | succ i =>
      have hi : (columnKeys rest)[i]? = some (columnKey name) := h
      have hn : columnKey n ≠ columnKey name := by
        intro heq
        rw [← heq] at hi
        exact hnew (List.mem_of_getElem? hi)
      rw [putColumn, if_neg hn, List.set_cons_succ, ih hrest hi]

theorem position?_eq_findIdx? (row : Row) (name : String) :
    row.position? name = (columnKeys row.columns).findIdx? (· == columnKey name) := by
  rw [columnKeys, List.findIdx?_map]
  rfl

theorem position?_eq_none_iff :
    row.position? name = none ↔ columnKey name ∉ columnKeys row.columns := by
  rw [position?_eq_findIdx?, List.findIdx?_eq_none_iff]
  exact ⟨fun h hmem => by simpa using h _ hmem, fun h key hmem => by
    simpa using ne_of_mem_of_not_mem hmem h⟩

/-- A row with different keys has each at one position. -/
theorem position?_eq_some_iff (hnodup : (columnKeys row.columns).Nodup) :
    row.position? name = some i ↔ (columnKeys row.columns)[i]? = some (columnKey name) := by
  rw [position?_eq_findIdx?, List.findIdx?_eq_some_iff_getElem, List.getElem?_eq_some_iff]
  constructor
  · rintro ⟨hlt, hkey, -⟩
    exact ⟨hlt, beq_iff_eq.mp hkey⟩
  · rintro ⟨hlt, hkey⟩
    refine ⟨hlt, beq_iff_eq.mpr hkey, fun j hj heq => ?_⟩
    rw [beq_iff_eq, ← hkey, hnodup.getElem_inj_iff] at heq
    exact Nat.ne_of_lt hj heq

end Places

/-- Columns in order, with an index from keys to places. -/
structure Indexed where
  columns : List (String × Value)
  index : Std.HashMap String Nat

namespace Indexed

def empty : Indexed := ⟨[], ∅⟩

/-- Writes a column in the place that the index has for its key, or after all others. -/
def put (r : Indexed) (name : String) (value : Value) : Indexed :=
  match r.index[columnKey name]? with
  | some i => ⟨r.columns.set i (name, value), r.index⟩
  | none => ⟨r.columns ++ [(name, value)], r.index.insert (columnKey name) r.columns.length⟩

def putAll (r : Indexed) (pairs : List (String × Value)) : Indexed :=
  pairs.foldl (fun r (name, value) => r.put name value) r

def ofList (pairs : List (String × Value)) : Indexed :=
  empty.putAll pairs

def Consistent (r : Indexed) : Prop :=
  Indexes r.index (columnKeys r.columns)

section Step

variable {r : Indexed}

theorem consistent_empty : empty.Consistent :=
  indexes_empty

/-- A column is written in the place that its key has, or behind the others with an entry for its
key, which is new. -/
theorem Consistent.put_cases (h : r.Consistent) (name : String) (value : Value) :
    (∃ i, (columnKeys r.columns)[i]? = some (columnKey name) ∧
        r.put name value = ⟨r.columns.set i (name, value), r.index⟩) ∨
      (columnKey name ∉ columnKeys r.columns ∧
        r.put name value = ⟨r.columns ++ [(name, value)],
          r.index.insert (columnKey name) r.columns.length⟩) := by
  cases hplace : r.index[columnKey name]? with
  | some i => exact Or.inl ⟨i, (h.places _ i).mp hplace, by simp only [put, hplace]⟩
  | none =>
    exact Or.inr ⟨h.getElem?_eq_none_iff.mp hplace, by simp only [put, hplace]⟩

/-- Through the index a column is put where a search would put it. -/
theorem Consistent.columns_put (h : r.Consistent) (name : String) (value : Value) :
    (r.put name value).columns = putColumn name value r.columns := by
  rcases h.put_cases name value with ⟨i, hkey, hput⟩ | ⟨hnew, hput⟩
  · rw [hput, putColumn_eq_set h.nodup hkey]
  · rw [hput, putColumn_of_notMem hnew]

theorem Consistent.put (h : r.Consistent) (name : String) (value : Value) :
    (r.put name value).Consistent := by
  rcases h.put_cases name value with ⟨i, hkey, hput⟩ | ⟨hnew, hput⟩
  · rw [hput, Consistent, columnKeys_set hkey]
    exact h
  · have hlength : (columnKeys r.columns).length = r.columns.length := List.length_map _
    rw [hput, Consistent, columnKeys_concat, ← hlength]
    exact h.concat hnew

theorem Consistent.putAll (h : r.Consistent) (pairs : List (String × Value)) :
    (r.putAll pairs).Consistent ∧ (r.putAll pairs).columns = putColumns r.columns pairs := by
  induction pairs generalizing r with
  | nil => exact ⟨h, rfl⟩
  | cons pair rest ih =>
    obtain ⟨hrest, hcolumns⟩ := ih (h.put pair.1 pair.2)
    rw [h.columns_put] at hcolumns
    exact ⟨hrest, hcolumns⟩

end Step

/-- The same pairs make a row with and without an index. -/
theorem consistent_ofList (pairs : List (String × Value)) :
    (ofList pairs).Consistent ∧ (ofList pairs).columns = (Row.ofList pairs).columns :=
  consistent_empty.putAll pairs

end Indexed

section Pairs

variable {name other : String} {value : Value} {pairs seen columns : List (String × Value)}

def lastNamed? (pairs : List (String × Value)) (name : String) : Option (String × Value) :=
  (pairs.filter fun pair => columnKey pair.1 == columnKey name).getLast?

theorem lastNamed?_congr (pairs : List (String × Value))
    (h : columnKey name = columnKey other) : lastNamed? pairs name = lastNamed? pairs other := by
  simp only [lastNamed?, h]

theorem lastNamed?_concat_of_eq (h : columnKey other = columnKey name) :
    lastNamed? (pairs ++ [(other, value)]) name = some (other, value) := by
  simp [lastNamed?, h]

theorem lastNamed?_concat_of_ne (h : columnKey other ≠ columnKey name) :
    lastNamed? (pairs ++ [(other, value)]) name = lastNamed? pairs name := by
  simp [lastNamed?, h]

theorem lastNamed?_eq_none_iff :
    lastNamed? pairs name = none ↔ ∀ pair ∈ pairs, columnKey pair.1 ≠ columnKey name := by
  simp [lastNamed?]

theorem contains_eq_isSome_value? (row : Row) (name : String) :
    row.contains name = (row.value? name).isSome := by
  cases hposition : row.position? name with
  | none => simp [contains, value?, hposition]
  | some i =>
    obtain ⟨hlt, -⟩ := List.findIdx?_eq_some_iff_getElem.mp hposition
    simp [contains, value?, hposition, hlt]

theorem eq_or_mem_of_mem_putColumn {column : String × Value} (hnodup : (columnKeys columns).Nodup)
    (h : column ∈ putColumn name value columns) :
    column = (name, value) ∨ column ∈ columns ∧ columnKey name ≠ columnKey column.1 := by
  induction columns with
  | nil => exact Or.inl (List.mem_singleton.mp h)
  | cons first rest ih =>
    rw [columnKeys_cons, List.nodup_cons] at hnodup
    obtain ⟨hnew, hrest⟩ := hnodup
    by_cases hfirst : columnKey first.1 = columnKey name
    · rw [putColumn, if_pos hfirst] at h
      rcases List.mem_cons.mp h with rfl | hmem
      · exact Or.inl rfl
      · refine Or.inr ⟨List.mem_cons_of_mem _ hmem, fun heq => hnew ?_⟩
        rw [hfirst, heq]
        exact columnKey_mem hmem
    · rw [putColumn, if_neg hfirst] at h
      rcases List.mem_cons.mp h with rfl | hmem
      · exact Or.inr ⟨List.mem_cons_self .., Ne.symm hfirst⟩
      · exact (ih hrest hmem).imp_right (And.imp_left (List.mem_cons_of_mem _))

/-- What pairs have led to: a column for each of their keys in the order of first occurrences, which
is the last pair with its key. -/
structure LeftBy (pairs columns : List (String × Value)) : Prop where
  keys : columnKeys columns = (columnKeys pairs).eraseDups
  latest : ∀ column ∈ columns, lastNamed? pairs column.1 = some column

theorem LeftBy.mem_columnKeys (h : LeftBy pairs columns) {key : String} :
    key ∈ columnKeys columns ↔ key ∈ columnKeys pairs := by
  rw [h.keys, List.mem_eraseDups]

/-- Of the pairs with one key the last one is left, in its own spelling and at the place of the
first. -/
theorem LeftBy.putColumn (h : LeftBy pairs columns) (hnodup : (columnKeys columns).Nodup)
    (name : String) (value : Value) :
    LeftBy (pairs ++ [(name, value)]) (putColumn name value columns) where
  keys := by
    by_cases hname : columnKey name ∈ columnKeys columns
    · rw [columnKeys_putColumn_of_mem hname, h.keys, columnKeys_concat,
        eraseDups_concat_of_mem (h.mem_columnKeys.mp hname)]
    · rw [columnKeys_putColumn_of_notMem hname, h.keys, columnKeys_concat,
        eraseDups_concat_of_notMem (mt h.mem_columnKeys.mpr hname)]
  latest column hcolumn := by
    rcases eq_or_mem_of_mem_putColumn hnodup hcolumn with rfl | ⟨hmem, hne⟩
    · exact lastNamed?_concat_of_eq rfl
    · rw [lastNamed?_concat_of_ne hne, h.latest column hmem]

theorem LeftBy.putColumns (h : LeftBy seen columns) (hnodup : (columnKeys columns).Nodup)
    (pairs : List (String × Value)) : LeftBy (seen ++ pairs) (putColumns columns pairs) := by
  induction pairs generalizing seen columns with
  | nil => simpa [Row.putColumns] using h
  | cons pair rest ih =>
    rw [List.append_cons]
    exact ih (h.putColumn hnodup pair.1 pair.2) (nodup_putColumn hnodup)

theorem leftBy_nil : LeftBy [] [] where
  keys := rfl
  latest := by simp

theorem leftBy_ofList (pairs : List (String × Value)) : LeftBy pairs (ofList pairs).columns :=
  leftBy_nil.putColumns List.nodup_nil pairs

/-- A row of pairs has the value of the last pair with the name. -/
theorem value?_ofList (pairs : List (String × Value)) (name : String) :
    (ofList pairs).value? name = (lastNamed? pairs name).map Prod.snd := by
  have hpairs := leftBy_ofList pairs
  cases hposition : (ofList pairs).position? name with
  | none =>
    have hnone : lastNamed? pairs name = none := by
      rw [lastNamed?_eq_none_iff]
      intro pair hpair heq
      refine position?_eq_none_iff.mp hposition (hpairs.mem_columnKeys.mpr ?_)
      rw [← heq]
      exact columnKey_mem hpair
    simp [value?, hposition, hnone]
  | some i =>
    have hkey := (position?_eq_some_iff (nodup_columnKeys_ofList pairs)).mp hposition
    rw [columnKeys, List.getElem?_map, Option.map_eq_some_iff] at hkey
    obtain ⟨column, hcolumn, hkey⟩ := hkey
    have hlast := hpairs.latest column (List.mem_of_getElem? hcolumn)
    rw [lastNamed?_congr pairs hkey] at hlast
    simp [value?, hposition, hcolumn, hlast]

end Pairs

/-- A row has one column for each key of its pairs, in the order in which the keys first occur, and
this is the last pair with the key. A name leads to the value of the last pair with its key, and to
nothing if there is none. An index that is kept up pair by pair has one entry for each column, which
is its place under its key, and finds what the row finds without it. -/
theorem ofList_lastWins (pairs : List (String × Value)) :
    (columnKeys (ofList pairs).columns).Nodup ∧
      ((Indexed.ofList pairs).columns = (ofList pairs).columns ∧
        (Indexed.ofList pairs).index.size = (ofList pairs).columns.length ∧
        (∀ (key : String) (i : Nat), (Indexed.ofList pairs).index[key]? = some i ↔
          (columnKeys (ofList pairs).columns)[i]? = some key) ∧
        ∀ name : String,
          (Indexed.ofList pairs).index[columnKey name]? = (ofList pairs).position? name) ∧
      (∀ name, (ofList pairs).value? name = (lastNamed? pairs name).map Prod.snd ∧
        ((ofList pairs).value? name = none ↔ ∀ pair ∈ pairs, columnKey pair.1 ≠ columnKey name) ∧
        ((ofList pairs).contains name = false ↔
          ∀ pair ∈ pairs, columnKey pair.1 ≠ columnKey name)) ∧
      columnKeys (ofList pairs).columns = (columnKeys pairs).eraseDups ∧
      ∀ column ∈ (ofList pairs).columns, lastNamed? pairs column.1 = some column := by
  obtain ⟨hconsistent, hcolumns⟩ := Indexed.consistent_ofList pairs
  have hnodup := nodup_columnKeys_ofList pairs
  rw [Indexed.Consistent, hcolumns] at hconsistent
  have hplaces := hconsistent.places
  have hsize := hconsistent.size.trans (List.length_map _)
  have habsent (name : String) : (ofList pairs).value? name = none ↔
      ∀ pair ∈ pairs, columnKey pair.1 ≠ columnKey name := by
    rw [value?_ofList, Option.map_eq_none_iff, lastNamed?_eq_none_iff]
  refine ⟨hnodup, ⟨hcolumns, hsize, hplaces, fun name => ?_⟩, fun name => ⟨value?_ofList pairs name,
    habsent name, ?_⟩, (leftBy_ofList pairs).keys, (leftBy_ofList pairs).latest⟩
  · exact Option.ext fun i => (hplaces _ i).trans (position?_eq_some_iff hnodup).symm
  · rw [contains_eq_isSome_value?, Option.isSome_eq_false_iff, Option.isNone_iff_eq_none]
    exact habsent name

end RowQuery.Row
