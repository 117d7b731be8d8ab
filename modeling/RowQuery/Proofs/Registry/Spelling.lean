import RowQuery.Proofs.Registry.Gains

/-!
How a column name is spelled after requests. The first entry for a type and a
name up to case decides, where the properties that a registry holds come before
all requests. Serving one more request changes nothing for the names that have
an entry already.
-/

namespace RowQuery

abbrev Spelling := String → ColumnType → String

namespace Registry

/-- The first spelling of a name for a type among what the registry holds and what is requested from
it. A name without any is spelled as it is. -/
def firstSpelling (r : Registry) (requests : List (String × ColumnType)) (name : String)
    (type : ColumnType) : String :=
  let entries := r.properties.map (fun p => (p.name, p.columnType)) ++ requests
  ((entries.find? fun entry => requestKey entry == requestKey (name, type)).map Prod.fst).getD name

variable {r s : Registry} {name : String} {type : ColumnType}

/-- An entry behind another one with its key is never the first. -/
theorem find?_append_cons_of_mem {before after : List (String × ColumnType)}
    {entry other : String × ColumnType} (hother : other ∈ before)
    (hkey : requestKey other = requestKey entry) (key : ColumnType × String) :
    (before ++ entry :: after).find? (fun e => requestKey e == key) =
      (before ++ after).find? fun e => requestKey e == key := by
  cases hfind : before.find? fun e => requestKey e == key with
  | some e => simp [List.find?_append, hfind]
  | none =>
    have hne := List.find?_eq_none.mp hfind other hother
    rw [hkey] at hne
    simp [List.find?_append, hfind, hne]

theorem firstSpelling_nil (r : Registry) (name : String) (type : ColumnType) :
    r.firstSpelling [] name type = r.spelling name type := by
  have hkey : (fun entry : String × ColumnType => requestKey entry == requestKey (name, type)) ∘
      (fun p : Property => (p.name, p.columnType)) =
      fun p => p.key == requestKey (name, type) := rfl
  rw [firstSpelling, List.append_nil, List.find?_map, hkey, spelling, property?, Option.map_map]
  rfl

/-- A request that is served counts as one that is still to come. -/
theorem firstSpelling_property (r : Registry) (request : String × ColumnType)
    (rest : List (String × ColumnType)) :
    (r.property request.1 request.2).2.firstSpelling rest name type =
      r.firstSpelling (request :: rest) name type := by
  rcases r.property_cases request.1 request.2 with ⟨p, hfound, hp⟩ | ⟨hfound, hp⟩
  · have hmem : (p.name, p.columnType) ∈ r.properties.map fun p => (p.name, p.columnType) :=
      List.mem_map_of_mem (List.mem_of_find?_eq_some hfound)
    have hkey : requestKey (p.name, p.columnType) = requestKey request := property?_key_eq hfound
    rw [hp, firstSpelling, firstSpelling, find?_append_cons_of_mem hmem hkey]
  · rw [hp, firstSpelling, firstSpelling]
    simp

/-- After requests a name is spelled as in its first entry. -/
theorem spelling_callAll (r : Registry) (requests : List (String × ColumnType)) (name : String)
    (type : ColumnType) :
    (r.callAll requests).2.spelling name type = r.firstSpelling requests name type := by
  induction requests generalizing r with
  | nil => exact (r.firstSpelling_nil name type).symm
  | cons request rest ih =>
    rw [← firstSpelling_property, ← ih]
    rfl

end Registry

end RowQuery
