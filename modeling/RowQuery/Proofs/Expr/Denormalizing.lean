import RowQuery.Proofs.Expr.Nodes
import RowQuery.Proofs.Expr.Normalizing

/-!
Normalizing and denormalizing undo each other. There and back an expression
has its column names in the spelling of the registry and is the same otherwise;
back and there again a normalized expression has the very same properties.
-/

namespace RowQuery

theorem TypedRead.columnName_ofName (type : ColumnType) (name : String) :
    (TypedRead.mk type [.ofName name]).columnName =
      if Text.isAllBlank name then .error (.blank type) else .ok name := rfl

def TypedRead.respelledArgs (r : Registry) (c : TypedRead) : List Expr :=
  match c.columnName with
  | .ok name => [.ofName (r.spelling name c.type)]
  | .error _ => c.args

mutual

/-- Gives every column name as a constant in the spelling of a registry, and writes the read of a
property as the typed read that it stands for. -/
def Expr.respelled (r : Registry) : Expr → Expr
  | .parameter name type => .parameter name type
  | .constant v type => .constant v type
  | .captured name v type => .captured name v type
  | .call (.rowGet type) receiver args =>
    .call (.rowGet type) (Expr.receiverRespelled r receiver)
      ((TypedRead.mk type args).respelledArgs r)
  | .call (.named name type) receiver args =>
    .call (.named name type) (Expr.receiverRespelled r receiver) (Expr.allRespelled r args)
  | .member receiver (.row p) =>
    .call (.rowGet p.columnType) (Expr.receiverRespelled r receiver) [.ofName p.name]
  | .member receiver (.declared name type) =>
    .member (Expr.receiverRespelled r receiver) (.declared name type)
  | .binary op left right => .binary op (left.respelled r) (right.respelled r)
  | .unary op operand => .unary op (operand.respelled r)
  | .convert operand type => .convert (operand.respelled r) type

def Expr.receiverRespelled (r : Registry) : Option Expr → Option Expr
  | none => none
  | some e => some (e.respelled r)

def Expr.allRespelled (r : Registry) : List Expr → List Expr
  | [] => []
  | e :: rest => e.respelled r :: Expr.allRespelled r rest

end

theorem TypedRead.respelledArgs_of_property? {r : Registry} {c : TypedRead} {p : Property}
    (h : c.property? r = some p) : c.respelledArgs r = [.ofName p.name] := by
  obtain ⟨name, hname, hp⟩ := property?_eq_some_iff.mp h
  simp only [respelledArgs, hname, Registry.spelling_of_property? hp]

mutual

/-- Denormalizing after the properties were put in place gives the reads back, each with the
spelling of its property. -/
theorem Expr.denormalize_withProperties (r : Registry) (e : Expr)
    (h : ∀ c ∈ e.reads, c.RegisteredIn r) : (e.withProperties r).denormalize = e.respelled r := by
  cases e with
  | parameter name type => rfl
  | constant v type => rfl
  | captured name v type => rfl
  | call method receiver args =>
    cases method with
    | rowGet type =>
      simp only [Expr.reads, List.mem_cons, forall_eq_or_imp] at h
      obtain ⟨p, hp⟩ := h.1
      obtain ⟨name, -, hfound⟩ := TypedRead.property?_eq_some_iff.mp hp
      have htype : p.columnType = type := (Registry.property?_key hfound).1
      have hr := Expr.denormalizeReceiver_withProperties r receiver h.2
      simp only [Expr.withProperties, hp, Expr.denormalize, hr, htype, Expr.respelled,
        TypedRead.respelledArgs_of_property? hp]
    | named name type =>
      simp only [Expr.reads, List.forall_mem_append] at h
      have hr := Expr.denormalizeReceiver_withProperties r receiver h.1
      have ha := Expr.denormalizeAll_withProperties r args h.2
      simp only [Expr.withProperties, Expr.denormalize, hr, ha, Expr.respelled]
  | member receiver m =>
    have hr := Expr.denormalizeReceiver_withProperties r receiver h
    cases m <;> simp only [Expr.withProperties, Expr.denormalize, hr, Expr.respelled]
  | binary op left right =>
    simp only [Expr.reads, List.forall_mem_append] at h
    have hl := Expr.denormalize_withProperties r left h.1
    have hr := Expr.denormalize_withProperties r right h.2
    simp only [Expr.withProperties, Expr.denormalize, hl, hr, Expr.respelled]
  | unary op operand =>
    have ho := Expr.denormalize_withProperties r operand h
    simp only [Expr.withProperties, Expr.denormalize, ho, Expr.respelled]
  | convert operand type =>
    have ho := Expr.denormalize_withProperties r operand h
    simp only [Expr.withProperties, Expr.denormalize, ho, Expr.respelled]

theorem Expr.denormalizeReceiver_withProperties (r : Registry) (receiver : Option Expr)
    (h : ∀ c ∈ Expr.receiverReads receiver, c.RegisteredIn r) :
    Expr.denormalizeReceiver (Expr.receiverWithProperties r receiver) =
      Expr.receiverRespelled r receiver := by
  cases receiver with
  | none => rfl
  | some e => exact congrArg some (Expr.denormalize_withProperties r e h)

theorem Expr.denormalizeAll_withProperties (r : Registry) (args : List Expr)
    (h : ∀ c ∈ Expr.allReads args, c.RegisteredIn r) :
    Expr.denormalizeAll (Expr.allWithProperties r args) = Expr.allRespelled r args := by
  cases args with
  | nil => rfl
  | cons e rest =>
    simp only [Expr.allReads, List.forall_mem_append] at h
    have he := Expr.denormalize_withProperties r e h.1
    have hr := Expr.denormalizeAll_withProperties r rest h.2
    simp only [Expr.allWithProperties, Expr.denormalizeAll, he, hr, Expr.allRespelled]

end

/-- The column name is written as a constant in the spelling of the registry. -/
def TypedRead.WrittenAsIn (r : Registry) (c : TypedRead) : Prop :=
  ∃ name, c.args = [.ofName name] ∧ r.spelling name c.type = name

theorem TypedRead.WrittenAsIn.respelledArgs {r : Registry} {c : TypedRead} (h : c.WrittenAsIn r) :
    c.respelledArgs r = c.args := by
  obtain ⟨type, args⟩ := c
  obtain ⟨name, rfl, hname⟩ := h
  unfold TypedRead.respelledArgs
  rw [TypedRead.columnName_ofName]
  by_cases hblank : Text.isAllBlank name = true
  · simp [hblank]
  · simpa [hblank] using congrArg Expr.ofName hname

mutual

/-- An expression without properties whose reads are spelled as in the registry is its own
respelling. -/
theorem Expr.respelled_eq_self (r : Registry) (e : Expr)
    (hp : ∀ d ∈ e.nodes, d.isPropertyRead = false) (hs : ∀ c ∈ e.reads, c.WrittenAsIn r) :
    e.respelled r = e := by
  cases e with
  | parameter name type => rfl
  | constant v type => rfl
  | captured name v type => rfl
  | call method receiver args =>
    simp only [Expr.nodes, List.forall_mem_cons, List.forall_mem_append] at hp
    cases method with
    | rowGet type =>
      simp only [Expr.reads, List.mem_cons, forall_eq_or_imp] at hs
      have hr := Expr.receiverRespelled_eq_self r receiver hp.2.1 hs.2
      simp only [Expr.respelled, hr, hs.1.respelledArgs]
    | named name type =>
      simp only [Expr.reads, List.forall_mem_append] at hs
      have hr := Expr.receiverRespelled_eq_self r receiver hp.2.1 hs.1
      have ha := Expr.allRespelled_eq_self r args hp.2.2 hs.2
      simp only [Expr.respelled, hr, ha]
  | member receiver m =>
    simp only [Expr.nodes, List.forall_mem_cons] at hp
    have hr := Expr.receiverRespelled_eq_self r receiver hp.2 hs
    cases m with
    | declared name type => simp only [Expr.respelled, hr]
    | row p => simp [Expr.isPropertyRead] at hp
  | binary op left right =>
    simp only [Expr.nodes, List.forall_mem_cons, List.forall_mem_append] at hp
    simp only [Expr.reads, List.forall_mem_append] at hs
    have hl := Expr.respelled_eq_self r left hp.2.1 hs.1
    have hr := Expr.respelled_eq_self r right hp.2.2 hs.2
    simp only [Expr.respelled, hl, hr]
  | unary op operand =>
    simp only [Expr.nodes, List.forall_mem_cons] at hp
    have ho := Expr.respelled_eq_self r operand hp.2 hs
    simp only [Expr.respelled, ho]
  | convert operand type =>
    simp only [Expr.nodes, List.forall_mem_cons] at hp
    have ho := Expr.respelled_eq_self r operand hp.2 hs
    simp only [Expr.respelled, ho]

theorem Expr.receiverRespelled_eq_self (r : Registry) (receiver : Option Expr)
    (hp : ∀ d ∈ Expr.receiverNodes receiver, d.isPropertyRead = false)
    (hs : ∀ c ∈ Expr.receiverReads receiver, c.WrittenAsIn r) :
    Expr.receiverRespelled r receiver = receiver := by
  cases receiver with
  | none => rfl
  | some e => exact congrArg some (Expr.respelled_eq_self r e hp hs)

theorem Expr.allRespelled_eq_self (r : Registry) (args : List Expr)
    (hp : ∀ d ∈ Expr.allNodes args, d.isPropertyRead = false)
    (hs : ∀ c ∈ Expr.allReads args, c.WrittenAsIn r) : Expr.allRespelled r args = args := by
  cases args with
  | nil => rfl
  | cons e rest =>
    simp only [Expr.allNodes, List.forall_mem_append] at hp
    simp only [Expr.allReads, List.forall_mem_append] at hs
    have he := Expr.respelled_eq_self r e hp.1 hs.1
    have hr := Expr.allRespelled_eq_self r rest hp.2 hs.2
    simp only [Expr.allRespelled, he, hr]

end

/-- Denormalizing what was normalized changes the spelling of column names and nothing else. -/
theorem Expr.denormalize_normalizeIn (r s : Registry) (e n : Expr)
    (h : e.normalizeIn r = (.ok n, s)) :
    n.denormalize = e.respelled s ∧
      ((∀ d ∈ e.nodes, d.isPropertyRead = false) → (∀ c ∈ e.reads, c.WrittenAsIn s) →
        n.denormalize = e) := by
  obtain ⟨-, hreads, rfl⟩ := Expr.eq_withProperties h
  have hrespelled := Expr.denormalize_withProperties s e hreads
  refine ⟨hrespelled, fun hp hs => ?_⟩
  rw [hrespelled]
  exact Expr.respelled_eq_self s e hp hs

def Expr.adult (home age : String) : Expr :=
  .binary .ge (.column (.column (.row "r") .row home) (.ofEdm .int32) age) (.ofValue (.int32 18))

def Expr.adultNormalized : Expr :=
  .binary .ge
    (.member (some (.member (some (.row "r")) (.row ⟨2, "Home", .row⟩)))
      (.row ⟨1, "age", .ofEdm .int32⟩))
    (.ofValue (.int32 18))

def Registry.ofAge : Registry := ⟨[⟨1, "age", .ofEdm .int32⟩]⟩

def Registry.ofAgeAndHome : Registry := ⟨[⟨1, "age", .ofEdm .int32⟩, ⟨2, "Home", .row⟩]⟩

theorem Expr.denormalize_normalizeIn_adult :
    (Expr.adult "Home" "AGE").normalizeIn .ofAge = (.ok .adultNormalized, .ofAgeAndHome) ∧
      Expr.adultNormalized.denormalize = (Expr.adult "Home" "AGE").respelled .ofAgeAndHome ∧
      (Expr.adult "Home" "age").normalizeIn .ofAge = (.ok .adultNormalized, .ofAgeAndHome) ∧
      Expr.adultNormalized.denormalize = Expr.adult "Home" "age" := by
  refine ⟨rfl, (Expr.denormalize_normalizeIn .ofAge .ofAgeAndHome _ _ rfl).1, rfl, ?_⟩
  refine (Expr.denormalize_normalizeIn .ofAge .ofAgeAndHome _ _ rfl).2 (by decide) fun c hc => ?_
  rcases List.mem_cons.mp hc with rfl | hc
  · exact ⟨"age", rfl, by decide⟩
  · rcases List.mem_singleton.mp hc with rfl
    exact ⟨"Home", rfl, by decide⟩

end RowQuery
