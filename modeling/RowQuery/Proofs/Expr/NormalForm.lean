import RowQuery.Proofs.Expr.Denormalizing

/-!
Normal forms. A normalized expression has no typed read left, and no more is
done to it. Registries that came about by normalizing hold no blank name, so
a denormalized expression can be normalized again: every spelling is found
under its own key, and the same properties come back.
-/

namespace RowQuery

/-- The registries that normalizing can lead to, failures included. -/
inductive Registry.Reached : Registry → Prop
  | empty : Reached .empty
  | normalize {r : Registry} (e : Expr) : Reached r → Reached (e.normalizeIn r).2

def Registry.Named (r : Registry) : Prop :=
  ∀ p ∈ r.properties, Text.isAllBlank p.name = false

namespace Registry

theorem Named.property {r : Registry} (h : r.Named) {name : String} (type : ColumnType)
    (hname : Text.isAllBlank name = false) : (r.property name type).2.Named := by
  rcases r.property_cases name type with ⟨p, -, hp⟩ | ⟨-, hp⟩
  · rw [hp]
    exact h
  · rw [hp]
    intro q hq
    rcases List.mem_append.mp hq with hq | hq
    · exact h q hq
    · rw [List.mem_singleton.mp hq]
      exact hname

theorem Named.registerAll {r : Registry} (h : r.Named) (cs : List TypedRead) :
    (registerAll cs r).2.Named := by
  induction cs generalizing r with
  | nil => exact h
  | cons c rest ih =>
    simp only [Registry.registerAll]
    cases hname : c.columnName with
    | error x => exact h
    | ok name =>
      obtain ⟨_, _, _, _, hblank⟩ := Expr.columnName_eq_ok_iff.mp hname
      exact ih (h.property c.type hblank)

/-- A blank name never gets into a registry, so all properties that were reached have names. -/
theorem Reached.named {r : Registry} (h : r.Reached) : r.Named := by
  induction h with
  | empty => simp [Named, Registry.empty]
  | @normalize r e _ ih =>
    have hreads := ih.registerAll e.reads
    rw [Expr.normalizeIn_eq]
    rcases hr : registerAll e.reads r with ⟨x | u, s⟩ <;> simpa only [hr] using hreads

theorem mem_of_property? {r : Registry} {name : String} {type : ColumnType} {p : Property}
    (h : r.property? name type = some p) : p ∈ r.properties :=
  List.mem_of_find?_eq_some h

end Registry

/-- The name of a property finds that property again. -/
theorem TypedRead.property?_ofName {r : Registry} {c : TypedRead} {p : Property} (hr : r.Named)
    (h : c.property? r = some p) : (TypedRead.mk c.type [.ofName p.name]).property? r = some p := by
  obtain ⟨name, -, hp⟩ := property?_eq_some_iff.mp h
  have hblank := hr p (Registry.mem_of_property? hp)
  refine property?_eq_some_iff.mpr ⟨p.name, ?_, ?_⟩
  · simp [columnName_ofName, hblank]
  · rw [Registry.property?_congr r c.type (Registry.property?_key hp).2, hp]

theorem TypedRead.hasParameters_args {r : Registry} {c : TypedRead} (h : c.RegisteredIn r) :
    Expr.anyHasParameters c.args = false := by
  obtain ⟨p, hp⟩ := h
  obtain ⟨name, hname, -⟩ := property?_eq_some_iff.mp hp
  obtain ⟨e, hargs, hparams, -, -⟩ := Expr.columnName_eq_ok_iff.mp hname
  simp [hargs, Expr.anyHasParameters, hparams]

section Replacement

variable (r : Registry)

/-- Where all reads have properties, none is left after these were put in place. -/
theorem Expr.isTypedRead_withProperties (e : Expr) (h : ∀ c ∈ e.reads, c.RegisteredIn r) :
    ∀ d ∈ (e.withProperties r).nodes, d.isTypedRead = false := by
  intro d hd
  obtain ⟨o, -, hreads, rfl⟩ := Expr.mem_nodes_withProperties r e h d hd
  cases o with
  | call method receiver args =>
    cases method with
    | rowGet type =>
      obtain ⟨p, hp⟩ := hreads ⟨type, args⟩ (by simp [Expr.reads])
      simp only [Expr.withProperties, hp, Expr.isTypedRead]
    | named name type => rfl
  | parameter | constant | captured | member | binary | unary | convert => rfl

/-- A property has the type of the read in whose place it stands. -/
theorem Expr.columnType_withProperties (e : Expr) (h : ∀ c ∈ e.reads, c.RegisteredIn r) :
    (e.withProperties r).columnType = e.columnType := by
  induction e using Expr.rec (motive_2 := fun _ => True) (motive_3 := fun _ => True) with
  | call method receiver args _ _ =>
    cases method with
    | named name type => rfl
    | rowGet type =>
      simp only [Expr.reads, List.mem_cons, forall_eq_or_imp] at h
      obtain ⟨p, hp⟩ := h.1
      obtain ⟨name, -, hfound⟩ := TypedRead.property?_eq_some_iff.mp hp
      simp only [Expr.withProperties, hp]
      exact (Registry.property?_key hfound).1
  | binary op left right hl hr =>
    simp only [Expr.reads, List.forall_mem_append] at h
    simp only [Expr.withProperties, Expr.columnType, hl h.1]
  | unary op operand ho => exact ho h
  | parameter | constant | captured | member | convert => rfl
  | none | some | nil | cons => trivial

mutual

theorem Expr.hasParameters_withProperties (e : Expr) (h : ∀ c ∈ e.reads, c.RegisteredIn r) :
    (e.withProperties r).hasParameters = e.hasParameters := by
  cases e with
  | parameter name type => rfl
  | constant v type => rfl
  | captured name v type => rfl
  | call method receiver args =>
    cases method with
    | rowGet type =>
      simp only [Expr.reads, List.mem_cons, forall_eq_or_imp] at h
      have hargs := TypedRead.hasParameters_args h.1
      obtain ⟨p, hp⟩ := h.1
      have hr := Expr.hasParameters_receiverWithProperties receiver h.2
      simp only [Expr.withProperties, hp, Expr.hasParameters, hr, hargs, Bool.or_false]
    | named name type =>
      simp only [Expr.reads, List.forall_mem_append] at h
      have hr := Expr.hasParameters_receiverWithProperties receiver h.1
      have ha := Expr.hasParameters_allWithProperties args h.2
      simp only [Expr.withProperties, Expr.hasParameters, hr, ha]
  | member receiver m => exact Expr.hasParameters_receiverWithProperties receiver h
  | binary op left right =>
    simp only [Expr.reads, List.forall_mem_append] at h
    have hl := Expr.hasParameters_withProperties left h.1
    have hr := Expr.hasParameters_withProperties right h.2
    simp only [Expr.withProperties, Expr.hasParameters, hl, hr]
  | unary op operand => exact Expr.hasParameters_withProperties operand h
  | convert operand type => exact Expr.hasParameters_withProperties operand h

theorem Expr.hasParameters_receiverWithProperties (receiver : Option Expr)
    (h : ∀ c ∈ Expr.receiverReads receiver, c.RegisteredIn r) :
    Expr.receiverHasParameters (Expr.receiverWithProperties r receiver) =
      Expr.receiverHasParameters receiver := by
  cases receiver with
  | none => rfl
  | some e => exact Expr.hasParameters_withProperties e h

theorem Expr.hasParameters_allWithProperties (args : List Expr)
    (h : ∀ c ∈ Expr.allReads args, c.RegisteredIn r) :
    Expr.anyHasParameters (Expr.allWithProperties r args) = Expr.anyHasParameters args := by
  cases args with
  | nil => rfl
  | cons e rest =>
    simp only [Expr.allReads, List.forall_mem_append] at h
    have he := Expr.hasParameters_withProperties e h.1
    have hr := Expr.hasParameters_allWithProperties rest h.2
    simp only [Expr.allWithProperties, Expr.anyHasParameters, he, hr]

end

mutual

theorem Expr.reads_eq_nil (e : Expr) (h : ∀ d ∈ e.nodes, d.isTypedRead = false) :
    e.reads = [] := by
  cases e with
  | parameter name type => rfl
  | constant v type => rfl
  | captured name v type => rfl
  | call method receiver args =>
    simp only [Expr.nodes, List.forall_mem_cons, List.forall_mem_append] at h
    cases method with
    | rowGet type => simp [Expr.isTypedRead] at h
    | named name type =>
      simp only [Expr.reads, Expr.receiverReads_eq_nil receiver h.2.1,
        Expr.allReads_eq_nil args h.2.2, List.append_nil]
  | member receiver m =>
    simp only [Expr.nodes, List.forall_mem_cons] at h
    exact Expr.receiverReads_eq_nil receiver h.2
  | binary op left right =>
    simp only [Expr.nodes, List.forall_mem_cons, List.forall_mem_append] at h
    simp only [Expr.reads, Expr.reads_eq_nil left h.2.1, Expr.reads_eq_nil right h.2.2,
      List.append_nil]
  | unary op operand =>
    simp only [Expr.nodes, List.forall_mem_cons] at h
    exact Expr.reads_eq_nil operand h.2
  | convert operand type =>
    simp only [Expr.nodes, List.forall_mem_cons] at h
    exact Expr.reads_eq_nil operand h.2

theorem Expr.receiverReads_eq_nil (receiver : Option Expr)
    (h : ∀ d ∈ Expr.receiverNodes receiver, d.isTypedRead = false) :
    Expr.receiverReads receiver = [] := by
  cases receiver with
  | none => rfl
  | some e => exact Expr.reads_eq_nil e h

theorem Expr.allReads_eq_nil (args : List Expr)
    (h : ∀ d ∈ Expr.allNodes args, d.isTypedRead = false) : Expr.allReads args = [] := by
  cases args with
  | nil => rfl
  | cons e rest =>
    simp only [Expr.allNodes, List.forall_mem_append] at h
    simp only [Expr.allReads, Expr.reads_eq_nil e h.1, Expr.allReads_eq_nil rest h.2,
      List.append_nil]

end

mutual

theorem Expr.withProperties_eq_self (e : Expr) (h : e.reads = []) : e.withProperties r = e := by
  cases e with
  | parameter name type => rfl
  | constant v type => rfl
  | captured name v type => rfl
  | call method receiver args =>
    cases method with
    | rowGet type => simp [Expr.reads] at h
    | named name type =>
      simp only [Expr.reads, List.append_eq_nil_iff] at h
      simp only [Expr.withProperties, Expr.receiverWithProperties_eq_self receiver h.1,
        Expr.allWithProperties_eq_self args h.2]
  | member receiver m =>
    simp only [Expr.withProperties, Expr.receiverWithProperties_eq_self receiver h]
  | binary op left right =>
    simp only [Expr.reads, List.append_eq_nil_iff] at h
    simp only [Expr.withProperties, Expr.withProperties_eq_self left h.1,
      Expr.withProperties_eq_self right h.2]
  | unary op operand => simp only [Expr.withProperties, Expr.withProperties_eq_self operand h]
  | convert operand type => simp only [Expr.withProperties, Expr.withProperties_eq_self operand h]

theorem Expr.receiverWithProperties_eq_self (receiver : Option Expr)
    (h : Expr.receiverReads receiver = []) :
    Expr.receiverWithProperties r receiver = receiver := by
  cases receiver with
  | none => rfl
  | some e => exact congrArg some (Expr.withProperties_eq_self e h)

theorem Expr.allWithProperties_eq_self (args : List Expr) (h : Expr.allReads args = []) :
    Expr.allWithProperties r args = args := by
  cases args with
  | nil => rfl
  | cons e rest =>
    simp only [Expr.allReads, List.append_eq_nil_iff] at h
    simp only [Expr.allWithProperties, Expr.withProperties_eq_self e h.1,
      Expr.allWithProperties_eq_self rest h.2]

end

end Replacement

/-- An expression without typed reads is its own normal form. -/
theorem Expr.normalizeIn_eq_self {e : Expr} (h : ∀ d ∈ e.nodes, d.isTypedRead = false)
    (r : Registry) : e.normalizeIn r = (.ok e, r) := by
  have hreads := Expr.reads_eq_nil e h
  rw [Expr.normalizeIn_of_registeredIn (by simp [hreads]), Expr.withProperties_eq_self r e hreads]

mutual

theorem Expr.isPropertyRead_denormalize (e : Expr) :
    ∀ d ∈ e.denormalize.nodes, d.isPropertyRead = false := by
  cases e with
  | parameter name type => simp [Expr.denormalize, Expr.nodes, Expr.isPropertyRead]
  | constant v type => simp [Expr.denormalize, Expr.nodes, Expr.isPropertyRead]
  | captured name v type => simp [Expr.denormalize, Expr.nodes, Expr.isPropertyRead]
  | call method receiver args =>
    simp only [Expr.denormalize, Expr.nodes, List.forall_mem_cons, List.forall_mem_append]
    exact ⟨rfl, Expr.isPropertyRead_denormalizeReceiver receiver,
      Expr.isPropertyRead_denormalizeAll args⟩
  | member receiver m =>
    have hr := Expr.isPropertyRead_denormalizeReceiver receiver
    cases m with
    | declared name type =>
      simp only [Expr.denormalize, Expr.nodes, List.forall_mem_cons]
      exact ⟨rfl, hr⟩
    | row p =>
      simp only [Expr.denormalize, Expr.nodes, List.forall_mem_cons, List.forall_mem_append]
      exact ⟨rfl, hr, by simp [Expr.allNodes, Expr.ofName, Expr.nodes, Expr.isPropertyRead]⟩
  | binary op left right =>
    simp only [Expr.denormalize, Expr.nodes, List.forall_mem_cons, List.forall_mem_append]
    exact ⟨rfl, Expr.isPropertyRead_denormalize left, Expr.isPropertyRead_denormalize right⟩
  | unary op operand =>
    simp only [Expr.denormalize, Expr.nodes, List.forall_mem_cons]
    exact ⟨rfl, Expr.isPropertyRead_denormalize operand⟩
  | convert operand type =>
    simp only [Expr.denormalize, Expr.nodes, List.forall_mem_cons]
    exact ⟨rfl, Expr.isPropertyRead_denormalize operand⟩

theorem Expr.isPropertyRead_denormalizeReceiver (receiver : Option Expr) :
    ∀ d ∈ Expr.receiverNodes (Expr.denormalizeReceiver receiver), d.isPropertyRead = false := by
  cases receiver with
  | none => simp [Expr.denormalizeReceiver, Expr.receiverNodes]
  | some e => exact Expr.isPropertyRead_denormalize e

theorem Expr.isPropertyRead_denormalizeAll (args : List Expr) :
    ∀ d ∈ Expr.allNodes (Expr.denormalizeAll args), d.isPropertyRead = false := by
  cases args with
  | nil => simp [Expr.denormalizeAll, Expr.allNodes]
  | cons e rest =>
    simp only [Expr.denormalizeAll, Expr.allNodes, List.forall_mem_append]
    exact ⟨Expr.isPropertyRead_denormalize e, Expr.isPropertyRead_denormalizeAll rest⟩

end

mutual

/-- Names in the spelling of a registry lead to the properties of the names as they were. -/
theorem Expr.withProperties_respelled {r : Registry} (hr : r.Named) (e : Expr)
    (hp : ∀ d ∈ e.nodes, d.isPropertyRead = false) (h : ∀ c ∈ e.reads, c.RegisteredIn r) :
    (∀ c ∈ (e.respelled r).reads, c.RegisteredIn r) ∧
      (e.respelled r).withProperties r = e.withProperties r := by
  cases e with
  | parameter name type => exact ⟨by simp [Expr.respelled, Expr.reads], rfl⟩
  | constant v type => exact ⟨by simp [Expr.respelled, Expr.reads], rfl⟩
  | captured name v type => exact ⟨by simp [Expr.respelled, Expr.reads], rfl⟩
  | call method receiver args =>
    simp only [Expr.nodes, List.forall_mem_cons, List.forall_mem_append] at hp
    cases method with
    | rowGet type =>
      simp only [Expr.reads, List.mem_cons, forall_eq_or_imp] at h
      obtain ⟨p, hfound⟩ := h.1
      have hagain := TypedRead.property?_ofName hr hfound
      obtain ⟨hreads, heq⟩ := Expr.receiverWithProperties_respelled hr receiver hp.2.1 h.2
      simp only [Expr.respelled, TypedRead.respelledArgs_of_property? hfound]
      constructor
      · simp only [Expr.reads, List.forall_mem_cons]
        exact ⟨⟨p, hagain⟩, hreads⟩
      · simp only [Expr.withProperties, hagain, hfound, heq]
    | named name type =>
      simp only [Expr.reads, List.forall_mem_append] at h
      obtain ⟨hreads, heq⟩ := Expr.receiverWithProperties_respelled hr receiver hp.2.1 h.1
      obtain ⟨hall, haeq⟩ := Expr.allWithProperties_respelled hr args hp.2.2 h.2
      constructor
      · simp only [Expr.respelled, Expr.reads, List.forall_mem_append]
        exact ⟨hreads, hall⟩
      · simp only [Expr.respelled, Expr.withProperties, heq, haeq]
  | member receiver m =>
    simp only [Expr.nodes, List.forall_mem_cons] at hp
    obtain ⟨hreads, heq⟩ := Expr.receiverWithProperties_respelled hr receiver hp.2 h
    cases m with
    | declared name type =>
      refine ⟨hreads, ?_⟩
      simp only [Expr.respelled, Expr.withProperties, heq]
    | row p => simp [Expr.isPropertyRead] at hp
  | binary op left right =>
    simp only [Expr.nodes, List.forall_mem_cons, List.forall_mem_append] at hp
    simp only [Expr.reads, List.forall_mem_append] at h
    obtain ⟨hlreads, hleq⟩ := Expr.withProperties_respelled hr left hp.2.1 h.1
    obtain ⟨hrreads, hreq⟩ := Expr.withProperties_respelled hr right hp.2.2 h.2
    constructor
    · simp only [Expr.respelled, Expr.reads, List.forall_mem_append]
      exact ⟨hlreads, hrreads⟩
    · simp only [Expr.respelled, Expr.withProperties, hleq, hreq]
  | unary op operand =>
    simp only [Expr.nodes, List.forall_mem_cons] at hp
    obtain ⟨hreads, heq⟩ := Expr.withProperties_respelled hr operand hp.2 h
    refine ⟨hreads, ?_⟩
    simp only [Expr.respelled, Expr.withProperties, heq]
  | convert operand type =>
    simp only [Expr.nodes, List.forall_mem_cons] at hp
    obtain ⟨hreads, heq⟩ := Expr.withProperties_respelled hr operand hp.2 h
    refine ⟨hreads, ?_⟩
    simp only [Expr.respelled, Expr.withProperties, heq]

theorem Expr.receiverWithProperties_respelled {r : Registry} (hr : r.Named)
    (receiver : Option Expr) (hp : ∀ d ∈ Expr.receiverNodes receiver, d.isPropertyRead = false)
    (h : ∀ c ∈ Expr.receiverReads receiver, c.RegisteredIn r) :
    (∀ c ∈ Expr.receiverReads (Expr.receiverRespelled r receiver), c.RegisteredIn r) ∧
      Expr.receiverWithProperties r (Expr.receiverRespelled r receiver) =
        Expr.receiverWithProperties r receiver := by
  cases receiver with
  | none => exact ⟨by simp [Expr.receiverRespelled, Expr.receiverReads], rfl⟩
  | some e =>
    obtain ⟨hreads, heq⟩ := Expr.withProperties_respelled hr e hp h
    exact ⟨hreads, congrArg some heq⟩

theorem Expr.allWithProperties_respelled {r : Registry} (hr : r.Named) (args : List Expr)
    (hp : ∀ d ∈ Expr.allNodes args, d.isPropertyRead = false)
    (h : ∀ c ∈ Expr.allReads args, c.RegisteredIn r) :
    (∀ c ∈ Expr.allReads (Expr.allRespelled r args), c.RegisteredIn r) ∧
      Expr.allWithProperties r (Expr.allRespelled r args) = Expr.allWithProperties r args := by
  cases args with
  | nil => exact ⟨by simp [Expr.allRespelled, Expr.allReads], rfl⟩
  | cons e rest =>
    simp only [Expr.allNodes, List.forall_mem_append] at hp
    simp only [Expr.allReads, List.forall_mem_append] at h
    obtain ⟨hreads, heq⟩ := Expr.withProperties_respelled hr e hp.1 h.1
    obtain ⟨hall, haeq⟩ := Expr.allWithProperties_respelled hr rest hp.2 h.2
    constructor
    · simp only [Expr.allRespelled, Expr.allReads, List.forall_mem_append]
      exact ⟨hreads, hall⟩
    · simp only [Expr.allRespelled, Expr.allWithProperties, heq, haeq]

end

/-- A normalized expression is a normal form of the same type that depends on parameters as before,
and the registry recognizes it: normalizing it again, denormalized or not, gives it back with the
same properties and requests none. -/
theorem Expr.normalForm_of_normalizeIn {r s : Registry} (hr : r.Reached) {e n : Expr}
    (hp : ∀ d ∈ e.nodes, d.isPropertyRead = false) (h : e.normalizeIn r = (.ok n, s)) :
    (∀ d ∈ n.nodes, d.isTypedRead = false) ∧
      n.columnType = e.columnType ∧ n.hasParameters = e.hasParameters ∧
      n.normalizeIn s = (.ok n, s) ∧
      (∀ d ∈ n.denormalize.nodes, d.isPropertyRead = false) ∧
      n.denormalize.normalizeIn s = (.ok n, s) := by
  have hs : s.Named := by simpa only [h] using (hr.normalize e).named
  obtain ⟨-, hreads, rfl⟩ := Expr.eq_withProperties h
  have htyped := Expr.isTypedRead_withProperties s e hreads
  refine ⟨htyped, Expr.columnType_withProperties s e hreads,
    Expr.hasParameters_withProperties s e hreads, Expr.normalizeIn_eq_self htyped s,
    Expr.isPropertyRead_denormalize _, ?_⟩
  have ⟨hagain, heq⟩ := Expr.withProperties_respelled hs e hp hreads
  rw [Expr.denormalize_withProperties s e hreads, Expr.normalizeIn_of_registeredIn hagain, heq]

theorem Expr.normalForm_of_normalizeIn_adult :
    Registry.ofAge.Reached ∧ (∀ d ∈ (Expr.adult "Home" "AGE").nodes, d.isPropertyRead = false) ∧
      (Expr.adult "Home" "AGE").normalizeIn .ofAge = (.ok .adultNormalized, .ofAgeAndHome) ∧
      (∀ d ∈ Expr.adultNormalized.nodes, d.isTypedRead = false) ∧
      Expr.adultNormalized.columnType = (Expr.adult "Home" "AGE").columnType ∧
      Expr.adultNormalized.hasParameters = (Expr.adult "Home" "AGE").hasParameters ∧
      Expr.adultNormalized.normalizeIn .ofAgeAndHome = (.ok .adultNormalized, .ofAgeAndHome) ∧
      (∀ d ∈ Expr.adultNormalized.denormalize.nodes, d.isPropertyRead = false) ∧
      Expr.adultNormalized.denormalize.normalizeIn .ofAgeAndHome =
        (.ok .adultNormalized, .ofAgeAndHome) := by
  have hreached : Registry.ofAge.Reached :=
    Registry.Reached.empty.normalize (.column (.row "r") (.ofEdm .int32) "age")
  have hnodes : ∀ d ∈ (Expr.adult "Home" "AGE").nodes, d.isPropertyRead = false := by decide
  exact ⟨hreached, hnodes, rfl, Expr.normalForm_of_normalizeIn hreached hnodes rfl⟩

end RowQuery
