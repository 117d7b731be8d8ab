import Mathlib.Data.List.Nodup
import RowQuery.Property

/-!
How a registry grows. A property that was given out stays the one for its name
and type, so the spelling of the first request is kept for ever. Requests only
append, and what they append is found again.
-/

namespace RowQuery.Registry

def property? (r : Registry) (name : String) (type : ColumnType) : Option Property :=
  r.properties.find? fun p => p.key == (type, columnKey name)

/-- How the registry spells a column name for a type, which is as given until it is registered. -/
def spelling (r : Registry) (name : String) (type : ColumnType) : String :=
  ((r.property? name type).map Property.name).getD name

/-- The later registry starts with all properties of the earlier one. -/
def Extends (r s : Registry) : Prop :=
  r.properties <+: s.properties

theorem Extends.refl (r : Registry) : r.Extends r :=
  List.prefix_rfl

theorem Extends.trans {r s t : Registry} (hrs : r.Extends s) (hst : s.Extends t) : r.Extends t :=
  List.IsPrefix.trans hrs hst

theorem property?_key_eq {r : Registry} {name : String} {type : ColumnType} {p : Property}
    (h : r.property? name type = some p) : p.key = (type, columnKey name) := by
  have hfound := List.find?_some h
  exact beq_iff_eq.mp hfound

theorem property?_key {r : Registry} {name : String} {type : ColumnType} {p : Property}
    (h : r.property? name type = some p) :
    p.columnType = type ∧ columnKey p.name = columnKey name := by
  have hkey := property?_key_eq h
  rwa [Property.key, Prod.mk.injEq] at hkey

/-- No property has the key of a request that finds none. -/
theorem key_ne_of_property?_eq_none {r : Registry} {name : String} {type : ColumnType}
    (h : r.property? name type = none) : ∀ p ∈ r.properties, p.key ≠ (type, columnKey name) := by
  rw [property?, List.find?_eq_none] at h
  simpa using h

/-- Where no two properties have one key, every property is found by its key. -/
theorem property?_of_mem {r : Registry} (hnodup : (r.properties.map Property.key).Nodup)
    {p : Property} (hp : p ∈ r.properties) {name : String} {type : ColumnType}
    (hkey : p.key = (type, columnKey name)) : r.property? name type = some p := by
  cases hfound : r.property? name type with
  | none => exact absurd hkey (key_ne_of_property?_eq_none hfound p hp)
  | some q =>
    have hq := List.mem_of_find?_eq_some hfound
    have hsame : q.key = p.key := (property?_key_eq hfound).trans hkey.symm
    rw [List.inj_on_of_nodup_map hnodup hq hp hsame]

/-- What is found by a name is found by every other spelling of it. -/
theorem property?_congr (r : Registry) {name other : String} (type : ColumnType)
    (h : columnKey name = columnKey other) :
    r.property? name type = r.property? other type := by
  simp only [property?, h]

/-- What a registry answers it answers for good. -/
theorem property?_mono {r s : Registry} {name : String} {type : ColumnType} {p : Property}
    (hext : r.Extends s) (h : r.property? name type = some p) :
    s.property? name type = some p := by
  obtain ⟨later, hlater⟩ := hext
  unfold property? at *
  rw [← hlater, List.find?_append, h, Option.some_or]

theorem spelling_of_property? {r : Registry} {name : String} {type : ColumnType} {p : Property}
    (h : r.property? name type = some p) : r.spelling name type = p.name := by
  simp [spelling, h]

/-- A known key is answered from the registry, which stays as it is. -/
theorem property_of_some {r : Registry} {name : String} {type : ColumnType} {p : Property}
    (h : r.property? name type = some p) : r.property name type = (p, r) := by
  unfold property? at h
  simp only [property, h]

/-- A new key gets the next number and the spelling of its request. -/
theorem property_of_none {r : Registry} {name : String} {type : ColumnType}
    (h : r.property? name type = none) :
    r.property name type =
      (⟨r.size + 1, name, type⟩, ⟨r.properties ++ [⟨r.size + 1, name, type⟩]⟩) := by
  unfold property? at h
  simp only [property, h]

/-- A request finds the property there is, or appends one spelled as requested. -/
theorem property_cases (r : Registry) (name : String) (type : ColumnType) :
    (∃ p, r.property? name type = some p ∧ r.property name type = (p, r)) ∨
      (r.property? name type = none ∧
        r.property name type =
          (⟨r.size + 1, name, type⟩, ⟨r.properties ++ [⟨r.size + 1, name, type⟩]⟩)) := by
  cases h : r.property? name type with
  | some p => exact Or.inl ⟨p, rfl, property_of_some h⟩
  | none => exact Or.inr ⟨rfl, property_of_none h⟩

theorem extends_property (r : Registry) (name : String) (type : ColumnType) :
    r.Extends (r.property name type).2 := by
  rcases r.property_cases name type with ⟨p, _, hp⟩ | ⟨_, hp⟩
  · rw [hp]
    exact Extends.refl r
  · rw [hp]
    exact List.prefix_append _ _

/-- What a request was answered with is found from then on. -/
theorem property?_property (r : Registry) (name : String) (type : ColumnType) :
    (r.property name type).2.property? name type = some (r.property name type).1 := by
  rcases r.property_cases name type with ⟨p, hfound, hp⟩ | ⟨hfound, hp⟩
  · rw [hp]
    exact hfound
  · rw [hp]
    unfold property? at *
    rw [List.find?_append, hfound]
    simp [Property.key]

def callAll (r : Registry) : List (String × ColumnType) → List Property × Registry
  | [] => ([], r)
  | (name, type) :: rest =>
    let (p, s) := r.property name type
    let (later, t) := s.callAll rest
    (p :: later, t)

theorem extends_callAll (r : Registry) (requests : List (String × ColumnType)) :
    r.Extends (r.callAll requests).2 := by
  induction requests generalizing r with
  | nil => exact Extends.refl r
  | cons request rest ih => exact (r.extends_property request.1 request.2).trans (ih _)

end RowQuery.Registry
