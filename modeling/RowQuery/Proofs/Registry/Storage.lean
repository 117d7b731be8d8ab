import RowQuery.Member
import RowQuery.Proofs.Keys
import RowQuery.Proofs.Registry

/-!
Registries as they are stored. Properties are objects in memory and known by
their addresses; a map has the address for each key, and a counter the last
ordinal. A request for a key that the map has gives the address from there, and
any other puts a new object in memory. Over whole histories of requests, objects
are told apart by their addresses just as by their ordinals and by their
structure, and what is in memory is what a registry of properties holds.
-/

namespace RowQuery.Registry

structure Stored where
  objects : List Property
  addresses : Std.HashMap (ColumnType × String) Nat
  lastOrdinal : Nat

namespace Stored

def empty : Stored := ⟨[], ∅, 0⟩

def size (s : Stored) : Nat :=
  s.addresses.size

/-- Puts a new object behind those in memory and enters its address in the map. -/
def allocate (s : Stored) (name : String) (type : ColumnType) : Nat × Stored :=
  let address := s.objects.length
  let ordinal := s.lastOrdinal + 1
  (address, ⟨s.objects ++ [⟨ordinal, name, type⟩],
    s.addresses.insert (type, columnKey name) address, ordinal⟩)

def findOrAllocate (s : Stored) (name : String) (type : ColumnType) : Nat × Stored :=
  match s.addresses[(type, columnKey name)]? with
  | some address => (address, s)
  | none => s.allocate name type

/-- A request looks into the map for reading first. Where its key is missing, it looks once more,
with the map open for writing. -/
def property (s : Stored) (name : String) (type : ColumnType) : Nat × Stored :=
  match s.addresses[(type, columnKey name)]? with
  | some address => (address, s)
  | none => s.findOrAllocate name type

/-- Members of rows are equal if they are one object or have equal properties. -/
def membersEqual (a : Nat) (p : Property) (b : Nat) (q : Property) : Bool :=
  a == b || (Member.row p).equals (.row q)

structure Call where
  name : String
  type : ColumnType
  address : Nat
deriving DecidableEq, Repr

def Call.key (c : Call) : ColumnType × String :=
  (c.type, columnKey c.name)

def callAll (s : Stored) : List (String × ColumnType) → List Call × Stored
  | [] => ([], s)
  | (name, type) :: rest =>
    let (address, t) := s.property name type
    let (later, u) := t.callAll rest
    (⟨name, type, address⟩ :: later, u)

def keys (s : Stored) : List (ColumnType × String) :=
  s.objects.map Property.key

/-- The map has the address of every object under its key, and the ordinals count the objects. -/
structure Consistent (s : Stored) : Prop where
  index : Indexes s.addresses s.keys
  lastOrdinal : s.lastOrdinal = s.objects.length
  ordinals : s.objects.map Property.ordinal = List.range' 1 s.objects.length

/-- What ties the stored objects to the calls so far: each call was given the object with its key,
the objects are in the order in which they were first given, and each is spelled as in the first
call for it. -/
structure Serves (s : Stored) (calls : List Call) : Prop extends Consistent s where
  kept : ∀ c ∈ calls, s.keys[c.address]? = some c.key
  inOrder : (calls.map Call.address).eraseDups = List.range s.objects.length
  spelled : ∀ p ∈ s.objects, ∃ d, calls.find? (fun d => d.key == p.key) = some d ∧
    p.name = d.name ∧ p.columnType = d.type

section Step

variable {s : Stored} {calls : List Call} {name : String} {type : ColumnType} {a b : Nat}
  {key : ColumnType × String}

@[simp] theorem length_keys (s : Stored) : s.keys.length = s.objects.length :=
  List.length_map _

theorem getElem?_keys_eq_some_iff :
    s.keys[a]? = some key ↔ ∃ p, s.objects[a]? = some p ∧ p.key = key := by
  rw [keys, List.getElem?_map, Option.map_eq_some_iff]

theorem lt_of_getElem?_keys (h : s.keys[a]? = some key) : a < s.objects.length := by
  obtain ⟨hlt, -⟩ := List.getElem?_eq_some_iff.mp h
  rwa [length_keys] at hlt

theorem serves_empty : empty.Serves [] where
  index := indexes_empty
  lastOrdinal := rfl
  ordinals := rfl
  kept := by simp
  inOrder := rfl
  spelled := by simp [empty]

theorem Consistent.size_eq (h : s.Consistent) : s.size = s.objects.length :=
  h.index.size.trans s.length_keys

/-- No two objects have one key. -/
theorem Consistent.address_inj (h : s.Consistent) (ha : s.keys[a]? = some key)
    (hb : s.keys[b]? = some key) : a = b := by
  obtain ⟨hlt, -⟩ := List.getElem?_eq_some_iff.mp ha
  exact (List.getElem?_inj hlt h.index.nodup).mp (ha.trans hb.symm)

/-- A request gives the address of the object with its key, if there is one, and allocates one
otherwise. -/
theorem Consistent.property_cases (h : s.Consistent) (name : String) (type : ColumnType) :
    (∃ a, s.keys[a]? = some (type, columnKey name) ∧ s.property name type = (a, s)) ∨
      ((type, columnKey name) ∉ s.keys ∧ s.property name type = s.allocate name type) := by
  cases haddress : s.addresses[(type, columnKey name)]? with
  | some a => exact Or.inl ⟨a, (h.index.places _ a).mp haddress, by simp only [property, haddress]⟩
  | none =>
    exact Or.inr ⟨h.index.getElem?_eq_none_iff.mp haddress,
      by simp only [property, findOrAllocate, haddress]⟩

theorem keys_allocate (s : Stored) (name : String) (type : ColumnType) :
    (s.allocate name type).2.keys = s.keys ++ [(type, columnKey name)] :=
  List.map_append

/-- A new object for a new key leaves the map, the counter and the objects in step. -/
theorem Consistent.allocate (h : s.Consistent) (hnew : (type, columnKey name) ∉ s.keys) :
    (s.allocate name type).2.Consistent where
  index := by
    rw [keys_allocate]
    simpa only [Stored.allocate, ← s.length_keys] using h.index.concat hnew
  lastOrdinal := by simp [Stored.allocate, h.lastOrdinal]
  ordinals := by
    simp only [Stored.allocate, List.map_append, h.ordinals, h.lastOrdinal, List.map_singleton,
      List.length_append, List.length_singleton, List.range'_1_concat, Nat.add_comm 1]

theorem find?_append_of_some {more : List Call} {key : ColumnType × String} {d : Call}
    (h : calls.find? (fun d => d.key == key) = some d) :
    (calls ++ more).find? (fun d => d.key == key) = some d := by
  rw [List.find?_append, h, Option.some_or]

/-- Every address that was handed out has an object. -/
theorem Serves.address_lt (hs : s.Serves calls) {c : Call} (hc : c ∈ calls) :
    c.address < s.objects.length :=
  lt_of_getElem?_keys (hs.kept c hc)

/-- Every object was given to some call. -/
theorem Serves.mem_addresses (hs : s.Serves calls) (ha : a < s.objects.length) :
    a ∈ calls.map Call.address := by
  rw [← List.mem_eraseDups, hs.inOrder, List.mem_range]
  exact ha

/-- A request for an object that there is leaves what is stored as it is. -/
theorem Serves.concat_found (hs : s.Serves calls) (ha : s.keys[a]? = some (type, columnKey name)) :
    s.Serves (calls ++ [⟨name, type, a⟩]) where
  toConsistent := hs.toConsistent
  kept := by
    rw [List.forall_mem_append, List.forall_mem_singleton]
    exact ⟨hs.kept, ha⟩
  inOrder := by
    rw [List.map_append]
    exact (eraseDups_concat_of_mem (hs.mem_addresses (lt_of_getElem?_keys ha))).trans hs.inOrder
  spelled p hp := by
    obtain ⟨d, hd, hspelling⟩ := hs.spelled p hp
    exact ⟨d, find?_append_of_some hd, hspelling⟩

/-- No earlier call has the key of a request for which there is no object. -/
theorem Serves.find?_eq_none (hs : s.Serves calls) (hnew : (type, columnKey name) ∉ s.keys) :
    calls.find? (fun d => d.key == (type, columnKey name)) = none := by
  rw [List.find?_eq_none]
  intro d hd hkey
  rw [← beq_iff_eq.mp hkey] at hnew
  exact hnew (List.mem_of_getElem? (hs.kept d hd))

/-- A request for a new key is given a new object, with the next ordinal and as it was spelled. -/
theorem Serves.concat_new (hs : s.Serves calls) (hnew : (type, columnKey name) ∉ s.keys) :
    (s.allocate name type).2.Serves (calls ++ [⟨name, type, (s.allocate name type).1⟩]) where
  toConsistent := hs.toConsistent.allocate hnew
  kept := by
    rw [List.forall_mem_append, List.forall_mem_singleton, keys_allocate]
    refine ⟨fun c hc => ?_, ?_⟩
    · have hlt : c.address < s.keys.length := s.length_keys ▸ hs.address_lt hc
      exact (List.getElem?_append_left hlt).trans (hs.kept c hc)
    · change (s.keys ++ [(type, columnKey name)])[s.objects.length]? = _
      rw [← s.length_keys]
      exact List.getElem?_concat_length
  inOrder := by
    have haddress : s.objects.length ∉ calls.map Call.address := by
      rw [← List.mem_eraseDups, hs.inOrder]
      exact List.not_mem_range_self
    simp only [Stored.allocate, List.map_append, List.map_singleton, List.length_append,
      List.length_singleton, List.range_succ, ← hs.inOrder]
    exact eraseDups_concat_of_notMem haddress
  spelled := by
    simp only [Stored.allocate, List.forall_mem_append, List.forall_mem_singleton]
    refine ⟨fun p hp => ?_, ⟨name, type, s.objects.length⟩, ?_, rfl, rfl⟩
    · obtain ⟨d, hd, hspelling⟩ := hs.spelled p hp
      exact ⟨d, find?_append_of_some hd, hspelling⟩
    · rw [List.find?_append, Property.key, hs.find?_eq_none hnew, Option.none_or]
      simp [Call.key]

/-- One request more is answered with the object of its key, new or old. -/
theorem Serves.property (hs : s.Serves calls) (name : String) (type : ColumnType) :
    (s.property name type).2.Serves (calls ++ [⟨name, type, (s.property name type).1⟩]) := by
  rcases hs.property_cases name type with ⟨a, ha, hp⟩ | ⟨hnew, hp⟩
  · rw [hp]
    exact hs.concat_found ha
  · rw [hp]
    exact hs.concat_new hnew

theorem objects_prefix_property (s : Stored) (name : String) (type : ColumnType) :
    s.objects <+: (s.property name type).2.objects := by
  unfold Stored.property findOrAllocate
  split
  · exact List.prefix_rfl
  · split
    · exact List.prefix_rfl
    · exact List.prefix_append _ _

end Step

section Run

variable {s : Stored} {calls : List Call}

/-- By induction on the requests, all of them are answered with the object of their key. -/
theorem Serves.callAll (hs : s.Serves calls) (requests : List (String × ColumnType)) :
    (s.callAll requests).2.Serves (calls ++ (s.callAll requests).1) := by
  induction requests generalizing s calls with
  | nil => simpa [Stored.callAll] using hs
  | cons request rest ih =>
    obtain ⟨name, type⟩ := request
    have hrest := ih (hs.property name type)
    rwa [List.append_assoc] at hrest

theorem objects_prefix_callAll (s : Stored) (requests : List (String × ColumnType)) :
    s.objects <+: (s.callAll requests).2.objects := by
  induction requests generalizing s with
  | nil => exact List.prefix_rfl
  | cons request rest ih => exact (s.objects_prefix_property request.1 request.2).trans (ih _)

/-- An object stays at its address, whatever is asked for later. -/
theorem getElem?_objects_callAll {a : Nat} {p : Property} (hp : s.objects[a]? = some p)
    (requests : List (String × ColumnType)) : (s.callAll requests).2.objects[a]? = some p := by
  obtain ⟨later, hlater⟩ := s.objects_prefix_callAll requests
  obtain ⟨hlt, -⟩ := List.getElem?_eq_some_iff.mp hp
  rw [← hlater, List.getElem?_append_left hlt, hp]

theorem map_request_callAll (s : Stored) (requests : List (String × ColumnType)) :
    (s.callAll requests).1.map (fun c => (c.name, c.type)) = requests := by
  induction requests generalizing s with
  | nil => rfl
  | cons request rest ih => exact congrArg (request :: ·) (ih _)

end Run

section Refinement

variable {s : Stored}

def toRegistry (s : Stored) : Registry :=
  ⟨s.objects⟩

/-- A request changes what is stored as it changes the registry, and the object that it is given is
the property that the registry gives. -/
theorem Consistent.toRegistry_property (h : s.Consistent) (name : String) (type : ColumnType) :
    (s.property name type).2.toRegistry = (s.toRegistry.property name type).2 ∧
      (s.property name type).2.objects[(s.property name type).1]? =
        some (s.toRegistry.property name type).1 := by
  rcases h.property_cases name type with ⟨a, ha, hp⟩ | ⟨hnew, hp⟩
  · obtain ⟨p, hp', hkey⟩ := getElem?_keys_eq_some_iff.mp ha
    have hfound : s.toRegistry.property? name type = some p :=
      property?_of_mem (r := s.toRegistry) h.index.nodup (List.mem_of_getElem? hp') hkey
    rw [hp, property_of_some hfound]
    exact ⟨rfl, hp'⟩
  · have hnone : s.toRegistry.property? name type = none := by
      rw [property?, List.find?_eq_none]
      intro p hp hkey
      exact hnew (beq_iff_eq.mp hkey ▸ List.mem_map_of_mem hp)
    have hordinal : s.toRegistry.size = s.lastOrdinal := h.lastOrdinal.symm
    rw [hp, property_of_none hnone, hordinal]
    exact ⟨rfl, List.getElem?_concat_length⟩

theorem Serves.toRegistry_callAll {calls : List Call} (hs : s.Serves calls)
    (requests : List (String × ColumnType)) :
    (s.callAll requests).2.toRegistry = (s.toRegistry.callAll requests).2 ∧
      (s.callAll requests).1.map (fun c => (s.callAll requests).2.objects[c.address]?) =
        (s.toRegistry.callAll requests).1.map some := by
  induction requests generalizing s calls with
  | nil => exact ⟨rfl, rfl⟩
  | cons request rest ih =>
    obtain ⟨name, type⟩ := request
    obtain ⟨hregistry, hobject⟩ := hs.toRegistry_property name type
    obtain ⟨hlater, hobjects⟩ := ih (hs.property name type)
    have hkept := getElem?_objects_callAll hobject rest
    rw [hregistry] at hlater hobjects
    exact ⟨hlater, List.cons_eq_cons.mpr ⟨hkept, hobjects⟩⟩

end Refinement

section Identity

variable {s : Stored} {calls : List Call} {c d : Call} {p q : Property}

theorem Serves.exists_object (hs : s.Serves calls) (hc : c ∈ calls) :
    ∃ p, s.objects[c.address]? = some p ∧ p.key = c.key :=
  getElem?_keys_eq_some_iff.mp (hs.kept c hc)

/-- Two calls got the same object exactly if their keys are the same. -/
theorem Serves.address_eq_iff (hs : s.Serves calls) (hc : c ∈ calls) (hd : d ∈ calls) :
    c.address = d.address ↔ c.key = d.key := by
  have hckey := hs.kept c hc
  have hdkey := hs.kept d hd
  constructor
  · intro h
    rw [h, hdkey, Option.some.injEq] at hckey
    exact hckey.symm
  · intro h
    rw [← h] at hdkey
    exact hs.address_inj hckey hdkey

/-- The object at an address has the ordinal that follows it. -/
theorem Consistent.ordinal_eq (h : s.Consistent) {a : Nat} (hp : s.objects[a]? = some p) :
    p.ordinal = a + 1 := by
  obtain ⟨hlt, -⟩ := List.getElem?_eq_some_iff.mp hp
  have hordinal : (s.objects.map Property.ordinal)[a]? = some p.ordinal := by
    rw [List.getElem?_map, hp, Option.map_some]
  rw [h.ordinals, List.getElem?_range' hlt, Option.some.injEq] at hordinal
  omega

/-- Objects have equal properties exactly if they are one. -/
theorem Consistent.equals_iff (h : s.Consistent) {a b : Nat} (hp : s.objects[a]? = some p)
    (hq : s.objects[b]? = some q) : p.equals q = true ↔ a = b := by
  have hpkey : s.keys[a]? = some p.key := getElem?_keys_eq_some_iff.mpr ⟨p, hp, rfl⟩
  have hqkey : s.keys[b]? = some q.key := getElem?_keys_eq_some_iff.mpr ⟨q, hq, rfl⟩
  rw [Property.equals, beq_iff_eq]
  constructor
  · intro heq
    rw [← heq] at hqkey
    exact h.address_inj hpkey hqkey
  · rintro rfl
    rw [hp, Option.some.injEq] at hq
    rw [hq]

/-- The distinct objects have the ordinals from one on, in the order in which they were first
given. -/
theorem Serves.map_ordinal (hs : s.Serves calls) :
    (calls.map Call.address).eraseDups.map (fun a => s.objects[a]?.map Property.ordinal) =
      (List.range' 1 s.size).map some := by
  rw [hs.inOrder, hs.size_eq, ← hs.ordinals, List.map_map]
  apply List.ext_getElem
  · simp
  · intro i hi hi'
    simp [List.getElem?_eq_getElem (by simpa using hi : i < s.objects.length)]

end Identity

end Stored

end RowQuery.Registry

namespace RowQuery

/-- Equal properties feed the same into every hasher. -/
theorem Property.hashInto_eq_of_equals {State : Type} {p q : Property}
    (feedText : String → State → State) (feedType : ColumnType → State → State)
    (h : p.equals q = true) : p.hashInto feedText feedType = q.hashInto feedText feedType := by
  rw [Property.equals, beq_iff_eq, Property.key, Property.key, Prod.mk.injEq] at h
  funext state
  rw [hashInto, hashInto, h.1, h.2]

namespace Registry

/-- In every history of a new registry, two calls are given one object exactly if they ask for one
type and for one name up to case, and what addresses tell apart is told apart by ordinals, by
structure, by equality as members and by hashes. The distinct objects are numbered from one without
gaps in the order of first requests. Each is spelled as in the first request for it and stays at its
address as it is. Without addresses, this is the registry of the properties that were given. -/
theorem Stored.callAll_empty {requests : List (String × ColumnType)} {calls : List Stored.Call}
    {s : Stored} (h : Stored.empty.callAll requests = (calls, s)) :
    calls.map (fun c => (c.name, c.type)) = requests ∧
      (∀ c ∈ calls, ∀ d ∈ calls, ∃ p q,
        s.objects[c.address]? = some p ∧ s.objects[d.address]? = some q ∧
        (c.address = d.address ↔ c.type = d.type ∧ columnKey c.name = columnKey d.name) ∧
        (p.ordinal = q.ordinal ↔ c.address = d.address) ∧
        (p.equals q = true ↔ c.address = d.address) ∧
        (Stored.membersEqual c.address p d.address q = true ↔ c.address = d.address) ∧
        (p.equals q = true → ∀ (State : Type)
          (feedText : String → State → State) (feedType : ColumnType → State → State),
          p.hashInto feedText feedType = q.hashInto feedText feedType)) ∧
      (calls.map Stored.Call.address).eraseDups.map
          (fun a => s.objects[a]?.map Property.ordinal) = (List.range' 1 s.size).map some ∧
      (∀ c ∈ calls, ∃ p d, s.objects[c.address]? = some p ∧
        calls.find? (fun d => d.type == c.type && columnKey d.name == columnKey c.name) = some d ∧
        p.name = d.name ∧ p.columnType = d.type ∧
        ∀ later, (s.callAll later).2.objects[c.address]? = some p) ∧
      (Registry.empty.callAll requests).2 = ⟨s.objects⟩ ∧
      (Registry.empty.callAll requests).1.map some =
        calls.map fun c => s.objects[c.address]? := by
  have hs := Stored.serves_empty.callAll requests
  have hrequests := Stored.empty.map_request_callAll requests
  obtain ⟨hregistry, hobjects⟩ := Stored.serves_empty.toRegistry_callAll requests
  rw [h] at hs hrequests hregistry hobjects
  refine ⟨hrequests, fun c hc d hd => ?_, hs.map_ordinal, fun c hc => ?_, hregistry.symm,
    hobjects.symm⟩
  · obtain ⟨p, hp, -⟩ := hs.exists_object hc
    obtain ⟨q, hq, -⟩ := hs.exists_object hd
    have hequals := hs.equals_iff hp hq
    refine ⟨p, q, hp, hq, ?_, ?_, hequals, ?_, fun heq State feedText feedType =>
      Property.hashInto_eq_of_equals feedText feedType heq⟩
    · rw [hs.address_eq_iff hc hd, Stored.Call.key, Stored.Call.key, Prod.mk.injEq]
    · rw [hs.ordinal_eq hp, hs.ordinal_eq hq, Nat.add_right_cancel_iff]
    · rw [Stored.membersEqual, Bool.or_eq_true, beq_iff_eq, Member.equals, hequals, or_self]
  · obtain ⟨p, hp, hkey⟩ := hs.exists_object hc
    obtain ⟨d, hd, hname, htype⟩ := hs.spelled p (List.mem_of_getElem? hp)
    rw [hkey] at hd
    exact ⟨p, d, hp, hd, hname, htype, Stored.getElem?_objects_callAll hp⟩

def alphaRequests : List (String × ColumnType) :=
  [("Alpha", .string), ("Beta", .string), ("ALPHA", .string),
    ("alpha", ColumnType.string.asNullable)]

/-- Requests that differ in spelling share an object, those that differ in type do not. -/
theorem Stored.callAll_empty_alphaRequests :
    ∃ calls s, Stored.empty.callAll alphaRequests = (calls, s) ∧
      s.objects = [⟨1, "Alpha", .string⟩, ⟨2, "Beta", .string⟩,
        ⟨3, "alpha", ColumnType.string.asNullable⟩] ∧
      (calls.map fun c => (s.objects[c.address]?).map Property.ordinal) =
        [some 1, some 2, some 1, some 3] ∧
      (calls.map Stored.Call.address).eraseDups.map
        (fun a => s.objects[a]?.map Property.ordinal) = (List.range' 1 s.size).map some ∧
      ∀ c ∈ calls, ∀ d ∈ calls,
        (c.address = d.address ↔ c.type = d.type ∧ columnKey c.name = columnKey d.name) := by
  obtain ⟨calls, s, hrun⟩ : ∃ calls s, Stored.empty.callAll alphaRequests = (calls, s) :=
    ⟨_, _, rfl⟩
  obtain ⟨-, hpairs, hordinals, -, hregistry, hobjects⟩ := Stored.callAll_empty hrun
  have hgiven : (Registry.empty.callAll alphaRequests).1.map Property.ordinal = [1, 2, 1, 3] := by
    decide +kernel
  have hstored : (Registry.empty.callAll alphaRequests).2.properties =
      [⟨1, "Alpha", .string⟩, ⟨2, "Beta", .string⟩,
        ⟨3, "alpha", ColumnType.string.asNullable⟩] := by
    decide +kernel
  refine ⟨calls, s, hrun, (congrArg Registry.properties hregistry).symm.trans hstored, ?_,
    hordinals, fun c hc d hd => ?_⟩
  · have hmapped := congrArg (List.map (Option.map Property.ordinal)) hobjects
    simp only [List.map_map] at hmapped
    exact hmapped.symm.trans (List.map_map.symm.trans (congrArg (List.map some) hgiven))
  · obtain ⟨-, -, -, -, haddress, -⟩ := hpairs c hc d hd
    exact haddress

end Registry

end RowQuery
