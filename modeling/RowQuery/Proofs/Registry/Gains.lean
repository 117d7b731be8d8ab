import RowQuery.Proofs.Keys
import RowQuery.Proofs.Registry

/-!
What a registry gains from requests. Whatever it holds beforehand, a request for
a key that neither it nor an earlier request has adds one property, and every
other request adds none, so the new properties are those for the missing keys,
in the order in which these are first asked for and numbered on from there.
-/

namespace RowQuery.Registry

def requestKey (request : String × ColumnType) : ColumnType × String :=
  (request.2, columnKey request.1)

def adding (r : Registry) (added : List Property) : Registry :=
  ⟨r.properties ++ added⟩

theorem size_adding (r : Registry) (added : List Property) :
    (r.adding added).size = r.size + added.length :=
  List.length_append

/-- The properties are what requests add to a registry: one for each of their keys that it does not
hold, in the order of first requests and spelled like these. -/
structure Gains (r : Registry) (requests : List (String × ColumnType)) (added : List Property) :
    Prop where
  keys : added.map Property.key =
    (requests.map requestKey).eraseDups.filter (· ∉ r.properties.map Property.key)
  ordinals : added.map Property.ordinal = List.range' (r.size + 1) added.length
  spelled : ∀ p ∈ added,
    requests.find? (fun request => requestKey request == p.key) = some (p.name, p.columnType)

variable {r : Registry} {seen requests : List (String × ColumnType)} {added : List Property}
variable {name : String} {type : ColumnType}

/-- A request is new exactly if no property has its key. -/
theorem property?_eq_none_iff :
    r.property? name type = none ↔ requestKey (name, type) ∉ r.properties.map Property.key := by
  simp [property?, requestKey]

section Step

theorem Gains.mem_keys {key : ColumnType × String} (h : r.Gains seen added) :
    key ∈ (r.adding added).properties.map Property.key ↔
      key ∈ r.properties.map Property.key ∨ key ∈ seen.map requestKey := by
  rw [adding, List.map_append, List.mem_append, h.keys, List.mem_filter, List.mem_eraseDups,
    decide_eq_true_eq]
  by_cases hheld : key ∈ r.properties.map Property.key <;> simp [hheld]

theorem gains_nil (r : Registry) : r.Gains [] [] where
  keys := rfl
  ordinals := rfl
  spelled := by simp

theorem Gains.find?_concat (h : r.Gains seen added) (request : String × ColumnType) :
    ∀ p ∈ added, (seen ++ [request]).find? (fun request => requestKey request == p.key) =
      some (p.name, p.columnType) := by
  intro p hp
  rw [List.find?_append, h.spelled p hp, Option.some_or]

/-- A request for a key that there is adds nothing. -/
theorem Gains.concat_known (h : r.Gains seen added)
    (hknown : requestKey (name, type) ∈ (r.adding added).properties.map Property.key) :
    r.Gains (seen ++ [(name, type)]) added where
  keys := by
    rw [List.map_append, List.map_singleton]
    by_cases hseen : requestKey (name, type) ∈ seen.map requestKey
    · rw [eraseDups_concat_of_mem hseen, h.keys]
    · -- the registry had the key before all requests
      have hheld := (h.mem_keys.mp hknown).resolve_right hseen
      have hdropped : [requestKey (name, type)].filter (· ∉ r.properties.map Property.key) = [] :=
        List.filter_cons_of_neg (by simpa using hheld)
      rw [eraseDups_concat_of_notMem hseen, List.filter_append, ← h.keys, hdropped,
        List.append_nil]
  ordinals := h.ordinals
  spelled := h.find?_concat _

/-- A request for a new key adds a property for it behind the others. -/
theorem Gains.concat_new (h : r.Gains seen added)
    (hheld : requestKey (name, type) ∉ r.properties.map Property.key)
    (hseen : requestKey (name, type) ∉ seen.map requestKey) :
    r.Gains (seen ++ [(name, type)]) (added ++ [⟨(r.adding added).size + 1, name, type⟩]) where
  keys := by
    have hkept : [requestKey (name, type)].filter (· ∉ r.properties.map Property.key) =
        [requestKey (name, type)] :=
      List.filter_cons_of_pos (by simpa using hheld)
    rw [List.map_append, List.map_append, List.map_singleton, List.map_singleton,
      eraseDups_concat_of_notMem hseen, List.filter_append, ← h.keys, hkept]
    rfl
  ordinals := by
    rw [List.map_append, h.ordinals, List.length_append, List.length_singleton,
      List.range'_1_concat, List.map_singleton, size_adding, Nat.add_right_comm]
  spelled := by
    rw [List.forall_mem_append, List.forall_mem_singleton]
    have hnone : seen.find? (fun request => requestKey request == requestKey (name, type)) =
        none := by
      rw [List.find?_eq_none]
      intro request hrequest heq
      rw [← beq_iff_eq.mp heq] at hseen
      exact hseen (List.mem_map_of_mem hrequest)
    refine ⟨h.find?_concat _, ?_⟩
    have hkey : Property.key ⟨(r.adding added).size + 1, name, type⟩ =
        requestKey (name, type) := rfl
    rw [hkey, List.find?_append, hnone, Option.none_or]
    exact List.find?_cons_of_pos (beq_self_eq_true _)

/-- One request more adds at most its own property to what the registry has gained. -/
theorem Gains.property (h : r.Gains seen added) (name : String) (type : ColumnType) :
    ∃ more, ((r.adding added).property name type).2 = r.adding more ∧
      r.Gains (seen ++ [(name, type)]) more := by
  rcases (r.adding added).property_cases name type with ⟨p, hfound, hp⟩ | ⟨hfound, hp⟩
  · have hknown : requestKey (name, type) ∈ (r.adding added).properties.map Property.key := by
      rw [requestKey, ← property?_key_eq hfound]
      exact List.mem_map_of_mem (List.mem_of_find?_eq_some hfound)
    exact ⟨added, by rw [hp], h.concat_known hknown⟩
  · rw [property?_eq_none_iff, h.mem_keys, not_or] at hfound
    refine ⟨_, ?_, h.concat_new hfound.1 hfound.2⟩
    rw [hp, adding, adding, List.append_assoc]

end Step

theorem Gains.callAll (h : r.Gains seen added) (requests : List (String × ColumnType)) :
    ∃ more, ((r.adding added).callAll requests).2 = r.adding more ∧
      r.Gains (seen ++ requests) more := by
  induction requests generalizing seen added with
  | nil => exact ⟨added, rfl, by rwa [List.append_nil]⟩
  | cons request rest ih =>
    obtain ⟨now, hnow, hgains⟩ := h.property request.1 request.2
    obtain ⟨more, hmore, hrest⟩ := ih hgains
    rw [List.append_assoc] at hrest
    refine ⟨more, ?_, hrest⟩
    rw [← hmore, ← hnow]
    rfl

/-- A registry keeps what it holds and gains what is missing. -/
theorem gains_callAll (r : Registry) (requests : List (String × ColumnType)) :
    ∃ added, (r.callAll requests).2.properties = r.properties ++ added ∧
      r.Gains requests added := by
  obtain ⟨added, hadded, hgains⟩ := r.gains_nil.callAll requests
  refine ⟨added, ?_, hgains⟩
  rw [adding, List.append_nil] at hadded
  exact congrArg Registry.properties hadded

end RowQuery.Registry
