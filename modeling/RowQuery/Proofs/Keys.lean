import Mathlib.Data.List.Nodup
import Mathlib.Data.List.Perm.Subperm

/-!
Keys in a list that grows at its end. A key that comes again adds nothing to the
first occurrences, and a new one stands behind all others. An index is a map
from keys to their places; where it has the place of every key and nothing else,
no key occurs twice, and a new key is entered with the place behind the others.
-/

namespace RowQuery

section FirstOccurrences

variable {α : Type} [BEq α] [LawfulBEq α] {as : List α} {a : α}

theorem eraseDups_concat_of_mem (h : a ∈ as) : (as ++ [a]).eraseDups = as.eraseDups := by
  simp [List.eraseDups_append, List.removeAll, h]

theorem eraseDups_concat_of_notMem (h : a ∉ as) :
    (as ++ [a]).eraseDups = as.eraseDups ++ [a] := by
  simp [List.eraseDups_append, List.removeAll, h, List.eraseDups_cons]

end FirstOccurrences

theorem getElem?_concat_eq_some_iff {α : Type} {as : List α} {a b : α} {i : Nat} :
    (as ++ [a])[i]? = some b ↔ as[i]? = some b ∨ i = as.length ∧ b = a := by
  rcases Nat.lt_trichotomy i as.length with hlt | rfl | hgt
  · simp [List.getElem?_append_left hlt, Nat.ne_of_lt hlt]
  · simp [eq_comm]
  · have hnone : (as ++ [a])[i]? = none := List.getElem?_eq_none (by simpa)
    simp [hnone, List.getElem?_eq_none (Nat.le_of_lt hgt), Nat.ne_of_gt hgt]

section Index

variable {α : Type} [BEq α] [Hashable α]

/-- The map has the place of each key and nothing else. -/
structure Indexes (index : Std.HashMap α Nat) (keys : List α) : Prop where
  places : ∀ (key : α) (i : Nat), index[key]? = some i ↔ keys[i]? = some key
  size : index.size = keys.length

variable {index : Std.HashMap α Nat} {keys : List α} {key : α}

/-- A key that occurred twice would have two places. -/
theorem Indexes.nodup (h : Indexes index keys) : keys.Nodup := by
  rw [List.nodup_iff_getElem?_ne_getElem?]
  intro i j hij hj heq
  have hjkey := List.getElem?_eq_getElem hj
  have hi := (h.places _ i).mpr (heq.trans hjkey)
  have hj := (h.places _ j).mpr hjkey
  rw [hi, Option.some.injEq] at hj
  exact Nat.ne_of_lt hij hj

/-- The index knows exactly the keys that are listed. -/
theorem Indexes.getElem?_eq_none_iff (h : Indexes index keys) :
    index[key]? = none ↔ key ∉ keys := by
  constructor
  · intro hnone hmem
    obtain ⟨i, hi⟩ := List.getElem?_of_mem hmem
    rw [(h.places key i).mpr hi] at hnone
    cases hnone
  · intro hnew
    rw [Option.eq_none_iff_forall_ne_some]
    intro i hi
    exact hnew (List.mem_of_getElem? ((h.places key i).mp hi))

variable [LawfulBEq α]

theorem indexes_empty : Indexes (∅ : Std.HashMap α Nat) [] where
  places := by simp
  size := Std.HashMap.size_empty

/-- A new key is entered with the place behind all others. -/
theorem Indexes.concat (h : Indexes index keys) (hnew : key ∉ keys) :
    Indexes (index.insert key keys.length) (keys ++ [key]) where
  places other i := by
    have hnone := h.getElem?_eq_none_iff.mpr hnew
    rw [Std.HashMap.getElem?_insert, getElem?_concat_eq_some_iff, ← h.places]
    by_cases hkey : key = other
    · subst hkey
      simp [hnone, eq_comm]
    · simp [hkey, Ne.symm hkey]
  size := by
    have hindex : key ∉ index := by
      rw [Std.HashMap.mem_iff_isSome_getElem?, h.getElem?_eq_none_iff.mpr hnew]
      simp
    rw [Std.HashMap.size_insert, if_neg hindex, h.size, List.length_append, List.length_singleton]

end Index

end RowQuery
