import RowQuery.Proofs.Row.Columns
import RowQuery.Value.Json

/-!
JSON data as a value and back. Two things are lost on the way: an integer that
the sixty-four-bit type does not hold comes back as a text, and of two keys
that name one column only the later comes back. All other data is kept.
-/

namespace RowQuery

namespace Json

section Entries

variable {key : String} {value : Json} {sorted entries : List (String × Json)}

def insertEntries (sorted entries : List (String × Json)) : List (String × Json) :=
  entries.foldl (fun sorted (key, value) => insertEntry key value sorted) sorted

theorem ofEntries_eq (entries : List (String × Json)) :
    ofEntries entries = .object (insertEntries [] entries) := rfl

def Ascending (entries : List (String × Json)) : Prop :=
  (entries.map Prod.fst).Pairwise (· < ·)

theorem insertEntry_of_forall_lt (h : ∀ k ∈ entries.map Prod.fst, k < key) :
    insertEntry key value entries = entries ++ [(key, value)] := by
  induction entries with
  | nil => rfl
  | cons entry rest ih =>
    obtain ⟨hlt, hrest⟩ := List.forall_mem_cons.mp h
    simp only [insertEntry, if_neg (String.lt_asymm hlt), if_pos hlt, ih hrest, List.cons_append]

theorem length_insertEntry_le (key : String) (value : Json) (entries : List (String × Json)) :
    (insertEntry key value entries).length ≤ entries.length + 1 := by
  induction entries with
  | nil => simp [insertEntry]
  | cons entry rest ih =>
    unfold insertEntry
    split_ifs
    · simp
    · simpa using ih
    · simp

/-- Entries with ascending keys stay as they are. -/
theorem insertEntries_of_ascending (h : Ascending (sorted ++ entries)) :
    insertEntries sorted entries = sorted ++ entries := by
  induction entries generalizing sorted with
  | nil => simp [insertEntries]
  | cons entry rest ih =>
    have hlast : ∀ k ∈ sorted.map Prod.fst, k < entry.1 := by
      rw [Ascending, List.map_append, List.pairwise_append] at h
      exact fun k hk => h.2.2 k hk _ (List.mem_cons_self ..)
    rw [List.append_cons] at h ⊢
    rw [← ih h, ← insertEntry_of_forall_lt hlast]
    rfl

/-- An object has no more entries than were put into it. -/
theorem length_insertEntries_le (sorted entries : List (String × Json)) :
    (insertEntries sorted entries).length ≤ sorted.length + entries.length := by
  induction entries generalizing sorted with
  | nil => exact Nat.le_refl _
  | cons entry rest ih =>
    have hfirst := length_insertEntry_le entry.1 entry.2 sorted
    have hrest := ih (insertEntry entry.1 entry.2 sorted)
    simp only [insertEntries, List.foldl_cons, List.length_cons] at hrest ⊢
    omega

end Entries

end Json

mutual

def Json.nodes : Json → List Json
  | .null => [.null]
  | .boolean b => [.boolean b]
  | .integer n => [.integer n]
  | .float x => [.float x]
  | .string s => [.string s]
  | .array items => .array items :: Json.allNodes items
  | .object entries => .object entries :: Json.entryNodes entries

def Json.allNodes : List Json → List Json
  | [] => []
  | j :: rest => j.nodes ++ Json.allNodes rest

def Json.entryNodes : List (String × Json) → List Json
  | [] => []
  | (_, j) :: rest => j.nodes ++ Json.entryNodes rest

end

namespace Json

/-- What decoding makes sure of, apart from the parts: integers fit a word, of which negative ones
have half, binary numbers are finite, and entries ascend. -/
def IsDecoded : Json → Prop
  | .integer n => -2 ^ 63 ≤ n ∧ n < 2 ^ 64
  | .float x => x.isFinite = true
  | .object entries => Ascending entries
  | _ => True

instance (entries : List (String × Json)) : Decidable (Ascending entries) :=
  inferInstanceAs (Decidable (List.Pairwise _ _))

instance : DecidablePred IsDecoded
  | .integer _ => inferInstanceAs (Decidable (_ ∧ _))
  | .float _ => inferInstanceAs (Decidable (_ = _))
  | .object entries => inferInstanceAs (Decidable (Ascending entries))
  | .null | .boolean _ | .string _ | .array _ => inferInstanceAs (Decidable True)

/-- Nothing is lost of the data, apart from its parts, when it becomes a value. -/
def IsKept : Json → Prop
  | .integer n => n ≤ 2 ^ 63 - 1
  | .object entries => (columnKeys entries).Nodup
  | _ => True

section Parts

variable (columns : List (String × Value))

theorem map_fst_toEntries : (Value.toEntries columns).map Prod.fst = columns.map Prod.fst := by
  induction columns with
  | nil => rfl
  | cons column rest ih => simp [Value.toEntries, ih]

theorem length_toEntries : (Value.toEntries columns).length = columns.length := by
  simpa using congrArg List.length (map_fst_toEntries columns)

theorem columnKeys_eq {α : Type} (named : List (String × α)) :
    columnKeys named = (named.map Prod.fst).map columnKey := by
  simp [columnKeys]

end Parts

/-- A value that the data has, and that leads back to it exactly under a condition. -/
def ComesBack (j : Json) (condition : Prop) : Prop :=
  ∃ v, j.asValue = .ok v ∧ (v.toJson = j ↔ condition)

/-- An integer comes back unless it is too great for 64 bits with a sign. -/
theorem comesBack_integer {n : Int} (h : IsDecoded (.integer n)) :
    (integer n).ComesBack (n ≤ 2 ^ 63 - 1) := by
  obtain ⟨hlow, hhigh⟩ := h
  have hholds : EdmType.int64.holdsInteger n = true ↔ n ≤ 2 ^ 63 - 1 := by
    simp [EdmType.holdsInteger, EdmType.integerBounds?]
    omega
  rw [← hholds]
  by_cases hn : EdmType.int64.holdsInteger n = true
  · have hint : (Int64.ofInt n).toInt = n :=
      Int64.toInt_ofInt_of_le hlow (by have := hholds.mp hn; omega)
    exact ⟨.int64 (Int64.ofInt n), if_pos hn, by simp [hn, Value.toJson, hint]⟩
  · have hword : 0 ≤ n ∧ n < 2 ^ 64 := by
      rw [hholds] at hn
      omega
    refine ⟨.decimal (.ofInt n), ?_, by simp [hn, Value.toJson]⟩
    rw [asValue, integerValue, if_neg hn, if_pos hword]

/-- An object comes back if its keys name different columns and its entries come back. If two keys
name one column, the row is too short for all entries. -/
theorem toJson_ofList {entries : List (String × Json)} {columns : List (String × Value)}
    (h : Ascending entries) (hkeys : columns.map Prod.fst = entries.map Prod.fst) :
    (Value.row (.ofList columns)).toJson = .object entries ↔
      (columnKeys entries).Nodup ∧ Value.toEntries columns = entries := by
  have hcolumnKeys : columnKeys columns = columnKeys entries := by
    rw [columnKeys_eq, hkeys, ← columnKeys_eq]
  have hlengths : columns.length = entries.length := by
    simpa using congrArg List.length hkeys
  have hjson : (Value.row (.ofList columns)).toJson =
      .object (insertEntries [] (Value.toEntries (Row.ofList columns).columns)) := ofEntries_eq _
  rw [hjson, object.injEq]
  by_cases hnodup : (columnKeys entries).Nodup
  · have hascending : Ascending (Value.toEntries columns) := by
      rwa [Ascending, map_fst_toEntries, hkeys]
    rw [Row.columns_ofList_of_nodup (by rwa [hcolumnKeys]), insertEntries_of_ascending hascending]
    simp [hnodup]
  · simp only [hnodup, false_and, iff_false]
    intro heq
    have hlength := length_insertEntries_le [] (Value.toEntries (Row.ofList columns).columns)
    rw [heq, length_toEntries, List.length_nil, Nat.zero_add, ← hlengths,
      Row.length_le_columns_ofList_iff, hcolumnKeys] at hlength
    exact hnodup hlength

end Json

mutual

/-- Decoded data has a value, and comes back from it exactly if nothing is lost of its parts. -/
theorem Json.comesBack (j : Json) (h : ∀ d ∈ j.nodes, d.IsDecoded) :
    j.ComesBack (∀ d ∈ j.nodes, d.IsKept) := by
  cases j with
  | null => exact ⟨.null, rfl, by simp [Value.toJson, Json.nodes, Json.IsKept]⟩
  | boolean b => exact ⟨.boolean b, rfl, by simp [Value.toJson, Json.nodes, Json.IsKept]⟩
  | string s => exact ⟨.string s, rfl, by simp [Value.toJson, Json.nodes, Json.IsKept]⟩
  | integer n =>
    rw [Json.nodes, List.forall_mem_singleton] at h ⊢
    exact Json.comesBack_integer h
  | float x =>
    rw [Json.nodes, List.forall_mem_singleton] at h ⊢
    have hfinite : x.isFinite = true := h
    exact ⟨.double x, rfl, by simp [Value.toJson, Json.ofDouble, Json.IsKept, hfinite]⟩
  | array items =>
    simp only [Json.nodes, List.forall_mem_cons] at h ⊢
    obtain ⟨vs, hvs, hiff⟩ := Json.asValues_comesBack items h.2
    rw [← hiff]
    refine ⟨.list vs, ?_, by simp [Value.toJson, Json.IsKept]⟩
    rw [Json.asValue, hvs]
    rfl
  | object entries =>
    simp only [Json.nodes, List.forall_mem_cons] at h ⊢
    obtain ⟨columns, hcolumns, hkeys, hiff⟩ := Json.asColumns_comesBack entries h.2
    rw [← hiff]
    refine ⟨.row (.ofList columns), ?_, Json.toJson_ofList h.1 hkeys⟩
    rw [Json.asValue, hcolumns]
    rfl

theorem Json.asValues_comesBack (items : List Json)
    (h : ∀ d ∈ Json.allNodes items, d.IsDecoded) :
    ∃ vs, Json.asValues items = .ok vs ∧
      (Value.toItems vs = items ↔ ∀ d ∈ Json.allNodes items, d.IsKept) := by
  cases items with
  | nil => exact ⟨[], rfl, by simp [Value.toItems, Json.allNodes]⟩
  | cons j rest =>
    simp only [Json.allNodes, List.forall_mem_append] at h ⊢
    obtain ⟨v, hv, hviff⟩ := Json.comesBack j h.1
    obtain ⟨vs, hvs, hvsiff⟩ := Json.asValues_comesBack rest h.2
    rw [← hviff, ← hvsiff]
    refine ⟨v :: vs, ?_, by simp [Value.toItems]⟩
    rw [Json.asValues, hv, hvs]
    rfl

theorem Json.asColumns_comesBack (entries : List (String × Json))
    (h : ∀ d ∈ Json.entryNodes entries, d.IsDecoded) :
    ∃ columns, Json.asColumns entries = .ok columns ∧
      columns.map Prod.fst = entries.map Prod.fst ∧
      (Value.toEntries columns = entries ↔ ∀ d ∈ Json.entryNodes entries, d.IsKept) := by
  cases entries with
  | nil => exact ⟨[], rfl, rfl, by simp [Value.toEntries, Json.entryNodes]⟩
  | cons entry rest =>
    obtain ⟨key, j⟩ := entry
    simp only [Json.entryNodes, List.forall_mem_append] at h ⊢
    obtain ⟨v, hv, hviff⟩ := Json.comesBack j h.1
    obtain ⟨columns, hcolumns, hkeys, hiff⟩ := Json.asColumns_comesBack rest h.2
    rw [← hviff, ← hiff]
    refine ⟨(key, v) :: columns, ?_, by simp [hkeys], by simp [Value.toEntries]⟩
    rw [Json.asColumns, hv, hcolumns]
    rfl

end

/-- Decoded data always has a value, and comes back from it as it was exactly if nowhere in it is an
integer beyond sixty-four bits with sign or an object with two keys for one column. -/
theorem Json.toJson_toValue_eq_self_iff (j : Json) (h : ∀ d ∈ j.nodes, d.IsDecoded) :
    j.asValue = .ok j.toValue ∧
      (j.toValue.toJson = j ↔
        (∀ n, .integer n ∈ j.nodes → n ≤ Int64.maxValue.toInt) ∧
          ∀ entries, .object entries ∈ j.nodes →
            entries.Pairwise fun d e => columnKey d.1 ≠ columnKey e.1) := by
  obtain ⟨v, hv, hiff⟩ := Json.comesBack j h
  have hvalue : j.toValue = v := by
    rw [Json.toValue, hv]
    rfl
  rw [hvalue, hiff]
  refine ⟨hv, fun hkept => ⟨fun n hn => hkept _ hn, fun entries hentries => ?_⟩, ?_⟩
  · simpa [Json.IsKept, columnKeys, List.Nodup, List.pairwise_map] using hkept _ hentries
  · rintro ⟨hintegers, hobjects⟩ d hd
    cases d with
    | integer n => exact hintegers n hd
    | object entries =>
      simpa [Json.IsKept, columnKeys, List.Nodup, List.pairwise_map] using hobjects entries hd
    | null | boolean | float | string | array => trivial

def Json.orders : Json :=
  .array [.object [("Id", .integer (2 ^ 63 - 1)), ("price", .float ⟨0x3ff8000000000000⟩)]]

def Json.twoSpellings : Json :=
  .array [.null, .object [("ID", .integer 1), ("id", .integer 2)]]

theorem Json.toJson_toValue_eq_self_iff_orders :
    (∀ d ∈ Json.orders.nodes, d.IsDecoded) ∧ Json.orders.asValue = .ok Json.orders.toValue ∧
      Json.orders.toValue.toJson = .orders ∧
      (∀ d ∈ Json.twoSpellings.nodes, d.IsDecoded) ∧
      Json.twoSpellings.toValue.toJson ≠ .twoSpellings := by
  have horders : ∀ d ∈ Json.orders.nodes, d.IsDecoded := by decide
  have hspellings : ∀ d ∈ Json.twoSpellings.nodes, d.IsDecoded := by decide
  obtain ⟨hvalue, hiff⟩ := Json.toJson_toValue_eq_self_iff _ horders
  refine ⟨horders, hvalue, hiff.mpr ⟨?_, ?_⟩, hspellings, ?_⟩
  · intro n hn
    obtain rfl : n = 2 ^ 63 - 1 := by simpa [orders, nodes, allNodes, entryNodes] using hn
    decide
  · intro entries hentries
    obtain rfl : entries = _ := by simpa [orders, nodes, allNodes, entryNodes] using hentries
    decide
  · intro h
    have hkeys := ((Json.toJson_toValue_eq_self_iff _ hspellings).2.mp h).2 _
      (List.mem_cons_of_mem _ (List.mem_cons_of_mem _ (List.mem_cons_self ..)))
    exact absurd hkeys (by decide)

end RowQuery
