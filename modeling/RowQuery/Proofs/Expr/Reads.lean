import RowQuery.Expr.Normalize
import RowQuery.Proofs.Expr.Evaluating
import RowQuery.Proofs.Registry

/-!
The typed reads of an expression, and what a registry has to do with them: it
gives out their properties in order, up to the first read whose column name
cannot be found out, and the properties it holds can take the place of the
reads. Neither the properties nor their places change when it grows.
-/

namespace RowQuery

/-- A column name is found out from a single argument without parameters that gives a string with
more than white space in it. -/
theorem Expr.columnName_eq_ok_iff {type : ColumnType} {args : List Expr} {name : String} :
    Expr.columnName type args = .ok name ↔
      ∃ e, args = [e] ∧ e.hasParameters = false ∧ e.evaluate .empty = .ok (.string name) ∧
        Text.isAllBlank name = false := by
  constructor
  · intro h
    match args with
    | [] | _ :: _ :: _ => simp [Expr.columnName] at h
    | [e] =>
      cases hparams : e.hasParameters with
      | true => simp [Expr.columnName, hparams] at h
      | false =>
        cases hv : e.evaluate .empty with
        | error x => simp [Expr.columnName, hparams, hv] at h
        | ok v =>
          simp only [Expr.columnName, hparams, hv, Bool.false_eq_true, if_false] at h
          cases v <;> simp only [Value.columnName, reduceCtorEq] at h
          rename_i text
          cases hblank : Text.isAllBlank text <;> simp_all
  · rintro ⟨e, rfl, hparams, hv, hblank⟩
    simp [Expr.columnName, hparams, hv, Value.columnName, hblank]

structure TypedRead where
  type : ColumnType
  args : List Expr

namespace TypedRead

def columnName (c : TypedRead) : Except NormalizeError String :=
  Expr.columnName c.type c.args

def property? (r : Registry) (c : TypedRead) : Option Property :=
  match c.columnName with
  | .ok name => r.property? name c.type
  | .error _ => none

/-- The column name of the read can be found out, and the registry holds its property. -/
def RegisteredIn (r : Registry) (c : TypedRead) : Prop :=
  ∃ p, c.property? r = some p

theorem property?_eq_some_iff {r : Registry} {c : TypedRead} {p : Property} :
    c.property? r = some p ↔
      ∃ name, c.columnName = .ok name ∧ r.property? name c.type = some p := by
  unfold property?
  cases c.columnName <;> simp

/-- A read keeps its property in every later registry. -/
theorem property?_mono {r s : Registry} {c : TypedRead} {p : Property}
    (hext : r.Extends s) (h : c.property? r = some p) : c.property? s = some p := by
  obtain ⟨name, hname, hp⟩ := property?_eq_some_iff.mp h
  exact property?_eq_some_iff.mpr ⟨name, hname, Registry.property?_mono hext hp⟩

end TypedRead

mutual

/-- The typed reads of an expression that are not in the arguments of other typed reads, a read
before the reads in its receiver. -/
def Expr.reads : Expr → List TypedRead
  | .parameter _ _ | .constant _ _ | .captured _ _ _ => []
  | .call (.rowGet type) receiver args => ⟨type, args⟩ :: Expr.receiverReads receiver
  | .call (.named _ _) receiver args => Expr.receiverReads receiver ++ Expr.allReads args
  | .member receiver _ => Expr.receiverReads receiver
  | .binary _ left right => left.reads ++ right.reads
  | .unary _ operand => operand.reads
  | .convert operand _ => operand.reads

def Expr.receiverReads : Option Expr → List TypedRead
  | none => []
  | some e => e.reads

def Expr.allReads : List Expr → List TypedRead
  | [] => []
  | e :: rest => e.reads ++ Expr.allReads rest

end

mutual

def Expr.withProperties (r : Registry) : Expr → Expr
  | .parameter name type => .parameter name type
  | .constant v type => .constant v type
  | .captured name v type => .captured name v type
  | .call (.rowGet type) receiver args =>
    match (TypedRead.mk type args).property? r with
    | some p => .member (Expr.receiverWithProperties r receiver) (.row p)
    | none => .call (.rowGet type) (Expr.receiverWithProperties r receiver) args
  | .call (.named name type) receiver args =>
    .call (.named name type) (Expr.receiverWithProperties r receiver)
      (Expr.allWithProperties r args)
  | .member receiver m => .member (Expr.receiverWithProperties r receiver) m
  | .binary op left right => .binary op (left.withProperties r) (right.withProperties r)
  | .unary op operand => .unary op (operand.withProperties r)
  | .convert operand type => .convert (operand.withProperties r) type

def Expr.receiverWithProperties (r : Registry) : Option Expr → Option Expr
  | none => none
  | some e => some (e.withProperties r)

def Expr.allWithProperties (r : Registry) : List Expr → List Expr
  | [] => []
  | e :: rest => e.withProperties r :: Expr.allWithProperties r rest

end

namespace Registry

/-- Gives out the properties of reads in order, up to the first without a column name. -/
def registerAll : List TypedRead → Registry → Except NormalizeError Unit × Registry
  | [], r => (.ok (), r)
  | c :: rest, r =>
    match c.columnName with
    | .error x => (.error x, r)
    | .ok name => registerAll rest (r.property name c.type).2

theorem registerAll_append (cs ds : List TypedRead) (r : Registry) :
    registerAll (cs ++ ds) r =
      match registerAll cs r with
      | (.ok _, s) => registerAll ds s
      | (.error x, s) => (.error x, s) := by
  induction cs generalizing r with
  | nil => rfl
  | cons c rest ih =>
    simp only [List.cons_append, registerAll]
    cases c.columnName with
    | error x => rfl
    | ok name => exact ih _

/-- Registering only adds properties, even where it fails on the way. -/
theorem extends_registerAll (cs : List TypedRead) (r : Registry) :
    r.Extends (registerAll cs r).2 := by
  induction cs generalizing r with
  | nil => exact Extends.refl r
  | cons c rest ih =>
    simp only [registerAll]
    cases c.columnName with
    | error x => exact Extends.refl r
    | ok name => exact (r.extends_property name c.type).trans (ih _)

/-- After a registration without failure every read has its property. -/
theorem registeredIn_of_registerAll {cs : List TypedRead} {r s : Registry}
    (h : registerAll cs r = (.ok (), s)) : ∀ c ∈ cs, c.RegisteredIn s := by
  induction cs generalizing r with
  | nil => simp
  | cons c rest ih =>
    simp only [registerAll] at h
    cases hname : c.columnName with
    | error x => simp [hname] at h
    | ok name =>
      simp only [hname] at h
      have hext : (r.property name c.type).2.Extends s := by
        simpa only [h] using extends_registerAll rest (r.property name c.type).2
      intro d hd
      rcases List.mem_cons.mp hd with rfl | hd
      · exact ⟨_, TypedRead.property?_mono hext
          (TypedRead.property?_eq_some_iff.mpr ⟨name, hname, r.property?_property name d.type⟩)⟩
      · exact ih h d hd

/-- Reads whose properties the registry holds already leave it as it is. -/
theorem registerAll_of_registeredIn {cs : List TypedRead} {r : Registry}
    (h : ∀ c ∈ cs, c.RegisteredIn r) : registerAll cs r = (.ok (), r) := by
  induction cs with
  | nil => rfl
  | cons c rest ih =>
    obtain ⟨p, hp⟩ := h c (List.mem_cons_self ..)
    obtain ⟨name, hname, hfound⟩ := TypedRead.property?_eq_some_iff.mp hp
    simp only [registerAll, hname, property_of_some hfound]
    exact ih fun d hd => h d (List.mem_cons_of_mem _ hd)

end Registry

mutual

/-- Properties that are there already are not replaced by later ones. -/
theorem Expr.withProperties_mono {r s : Registry} (hext : r.Extends s) (e : Expr)
    (h : ∀ c ∈ e.reads, c.RegisteredIn r) :
    e.withProperties s = e.withProperties r := by
  cases e with
  | parameter name type => rfl
  | constant v type => rfl
  | captured name v type => rfl
  | call method receiver args =>
    cases method with
    | rowGet type =>
      simp only [Expr.reads, List.mem_cons, forall_eq_or_imp] at h
      obtain ⟨p, hp⟩ := h.1
      have hr := Expr.receiverWithProperties_mono hext receiver h.2
      simp only [Expr.withProperties, hp, TypedRead.property?_mono hext hp, hr]
    | named name type =>
      simp only [Expr.reads, List.forall_mem_append] at h
      have hr := Expr.receiverWithProperties_mono hext receiver h.1
      have ha := Expr.allWithProperties_mono hext args h.2
      simp only [Expr.withProperties, hr, ha]
  | member receiver m =>
    have hr := Expr.receiverWithProperties_mono hext receiver h
    simp only [Expr.withProperties, hr]
  | binary op left right =>
    simp only [Expr.reads, List.forall_mem_append] at h
    have hl := Expr.withProperties_mono hext left h.1
    have hr := Expr.withProperties_mono hext right h.2
    simp only [Expr.withProperties, hl, hr]
  | unary op operand =>
    have ho := Expr.withProperties_mono hext operand h
    simp only [Expr.withProperties, ho]
  | convert operand type =>
    have ho := Expr.withProperties_mono hext operand h
    simp only [Expr.withProperties, ho]

theorem Expr.receiverWithProperties_mono {r s : Registry} (hext : r.Extends s)
    (receiver : Option Expr)
    (h : ∀ c ∈ Expr.receiverReads receiver, c.RegisteredIn r) :
    Expr.receiverWithProperties s receiver = Expr.receiverWithProperties r receiver := by
  cases receiver with
  | none => rfl
  | some e => exact congrArg some (Expr.withProperties_mono hext e h)

theorem Expr.allWithProperties_mono {r s : Registry} (hext : r.Extends s) (args : List Expr)
    (h : ∀ c ∈ Expr.allReads args, c.RegisteredIn r) :
    Expr.allWithProperties s args = Expr.allWithProperties r args := by
  cases args with
  | nil => rfl
  | cons e rest =>
    simp only [Expr.allReads, List.forall_mem_append] at h
    have he := Expr.withProperties_mono hext e h.1
    have hr := Expr.allWithProperties_mono hext rest h.2
    simp only [Expr.allWithProperties, he, hr]

end

section Replacement

variable (r : Registry)

mutual

/-- What is inside an expression with properties is the replacement of something inside it before,
whose reads are registered too. -/
theorem Expr.mem_nodes_withProperties (e : Expr) (h : ∀ c ∈ e.reads, c.RegisteredIn r) :
    ∀ d ∈ (e.withProperties r).nodes,
      ∃ o ∈ e.nodes, (∀ c ∈ o.reads, c.RegisteredIn r) ∧ d = o.withProperties r := by
  have hself := e.self_mem_nodes
  cases e with
  | parameter name type | constant v type | captured name v type =>
    intro d hd
    exact ⟨_, hself, h, List.mem_singleton.mp hd⟩
  | call method receiver args =>
    cases method with
    | rowGet type =>
      simp only [Expr.reads, List.mem_cons, forall_eq_or_imp] at h
      obtain ⟨p, hp⟩ := h.1
      have hroot : (Expr.call (.rowGet type) receiver args).withProperties r =
          .member (Expr.receiverWithProperties r receiver) (.row p) := by
        simp only [Expr.withProperties, hp]
      rw [hroot]
      simp only [Expr.nodes, List.forall_mem_cons]
      refine ⟨⟨_, hself, ?_, hroot.symm⟩, fun d hd => ?_⟩
      · simpa only [Expr.reads, List.mem_cons, forall_eq_or_imp] using h
      · obtain ⟨o, ho, hreads, rfl⟩ :=
          Expr.mem_nodes_receiverWithProperties receiver h.2 d hd
        exact ⟨o, by simp [ho], hreads, rfl⟩
    | named name type =>
      simp only [Expr.withProperties, Expr.nodes, List.forall_mem_cons, List.forall_mem_append]
      have hparts := h
      simp only [Expr.reads, List.forall_mem_append] at hparts
      refine ⟨⟨_, hself, h, rfl⟩, fun d hd => ?_, fun d hd => ?_⟩
      · obtain ⟨o, ho, hreads, rfl⟩ :=
          Expr.mem_nodes_receiverWithProperties receiver hparts.1 d hd
        exact ⟨o, by simp [ho], hreads, rfl⟩
      · obtain ⟨o, ho, hreads, rfl⟩ := Expr.mem_nodes_allWithProperties args hparts.2 d hd
        exact ⟨o, by simp [ho], hreads, rfl⟩
  | member receiver m =>
    simp only [Expr.withProperties, Expr.nodes, List.forall_mem_cons]
    refine ⟨⟨_, hself, h, rfl⟩, fun d hd => ?_⟩
    obtain ⟨o, ho, hreads, rfl⟩ := Expr.mem_nodes_receiverWithProperties receiver h d hd
    exact ⟨o, by simp [ho], hreads, rfl⟩
  | binary op left right =>
    have hparts := h
    simp only [Expr.reads, List.forall_mem_append] at hparts
    simp only [Expr.withProperties, Expr.nodes, List.forall_mem_cons, List.forall_mem_append]
    refine ⟨⟨_, hself, h, rfl⟩, fun d hd => ?_, fun d hd => ?_⟩
    · obtain ⟨o, ho, hreads, rfl⟩ := Expr.mem_nodes_withProperties left hparts.1 d hd
      exact ⟨o, by simp [ho], hreads, rfl⟩
    · obtain ⟨o, ho, hreads, rfl⟩ := Expr.mem_nodes_withProperties right hparts.2 d hd
      exact ⟨o, by simp [ho], hreads, rfl⟩
  | unary op operand =>
    simp only [Expr.withProperties, Expr.nodes, List.forall_mem_cons]
    refine ⟨⟨_, hself, h, rfl⟩, fun d hd => ?_⟩
    obtain ⟨o, ho, hreads, rfl⟩ := Expr.mem_nodes_withProperties operand h d hd
    exact ⟨o, by simp [ho], hreads, rfl⟩
  | convert operand type =>
    simp only [Expr.withProperties, Expr.nodes, List.forall_mem_cons]
    refine ⟨⟨_, hself, h, rfl⟩, fun d hd => ?_⟩
    obtain ⟨o, ho, hreads, rfl⟩ := Expr.mem_nodes_withProperties operand h d hd
    exact ⟨o, by simp [ho], hreads, rfl⟩

theorem Expr.mem_nodes_receiverWithProperties (receiver : Option Expr)
    (h : ∀ c ∈ Expr.receiverReads receiver, c.RegisteredIn r) :
    ∀ d ∈ Expr.receiverNodes (Expr.receiverWithProperties r receiver),
      ∃ o ∈ Expr.receiverNodes receiver,
        (∀ c ∈ o.reads, c.RegisteredIn r) ∧ d = o.withProperties r := by
  cases receiver with
  | none => simp [Expr.receiverWithProperties, Expr.receiverNodes]
  | some e => exact Expr.mem_nodes_withProperties e h

theorem Expr.mem_nodes_allWithProperties (args : List Expr)
    (h : ∀ c ∈ Expr.allReads args, c.RegisteredIn r) :
    ∀ d ∈ Expr.allNodes (Expr.allWithProperties r args),
      ∃ o ∈ Expr.allNodes args,
        (∀ c ∈ o.reads, c.RegisteredIn r) ∧ d = o.withProperties r := by
  cases args with
  | nil => simp [Expr.allWithProperties, Expr.allNodes]
  | cons e rest =>
    simp only [Expr.allReads, List.forall_mem_append] at h
    simp only [Expr.allWithProperties, Expr.allNodes, List.forall_mem_append]
    refine ⟨fun d hd => ?_, fun d hd => ?_⟩
    · obtain ⟨o, ho, hreads, rfl⟩ := Expr.mem_nodes_withProperties e h.1 d hd
      exact ⟨o, by simp [ho], hreads, rfl⟩
    · obtain ⟨o, ho, hreads, rfl⟩ := Expr.mem_nodes_allWithProperties rest h.2 d hd
      exact ⟨o, by simp [ho], hreads, rfl⟩

end

end Replacement

end RowQuery
