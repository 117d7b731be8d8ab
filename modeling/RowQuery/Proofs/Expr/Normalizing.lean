import RowQuery.Proofs.Expr.Reads

/-!
Normalizing in two steps. The typed reads of an expression are registered
first; the properties that the resulting registry holds then take their
places. The second step leaves the registry alone, so whatever is said about
normalized expressions is said about the replacement of reads by properties.
-/

namespace RowQuery

namespace Registering

variable {α β γ : Type}

/-- Registers reads and goes on with what the resulting registry gives. -/
def registerThen (cs : List TypedRead) (f : Registry → α) : Registering NormalizeError α := fun r =>
  match Registry.registerAll cs r with
  | (.ok _, s) => (.ok (f s), s)
  | (.error x, s) => (.error x, s)

theorem bind_apply {ε : Type} (x : Registering ε α) (f : α → Registering ε β) (r : Registry) :
    (x >>= f) r =
      match x r with
      | (.ok a, s) => f a s
      | (.error e, s) => (.error e, s) := by
  simp only [bind, ExceptT.bind, ExceptT.mk, StateT.bind]
  rcases x r with ⟨e | a, s⟩ <;> rfl

theorem pure_apply {ε : Type} (a : α) (r : Registry) :
    (pure a : Registering ε α) r = (.ok a, r) := rfl

theorem registerThen_map (cs : List TypedRead) (f : Registry → α) (h : α → β) :
    (do let a ← registerThen cs f; return h a) = registerThen cs fun s => h (f s) := by
  funext r
  simp only [bind_apply, registerThen]
  rcases Registry.registerAll cs r with ⟨x | u, s⟩ <;> rfl

/-- Two results in a row, of which the first does not change when the registry grows. -/
theorem registerThen_bind (cs ds : List TypedRead) (f : Registry → α) (g : Registry → β)
    (h : α → β → γ)
    (hf : ∀ r s, r.Extends s → (∀ c ∈ cs, c.RegisteredIn r) → f s = f r) :
    (do let a ← registerThen cs f; let b ← registerThen ds g; return h a b) =
      registerThen (cs ++ ds) fun s => h (f s) (g s) := by
  funext r
  simp only [bind_apply, registerThen, Registry.registerAll_append]
  rcases hcs : Registry.registerAll cs r with ⟨x | u, s⟩
  · rfl
  · have hext := Registry.extends_registerAll ds s
    rcases hds : Registry.registerAll ds s with ⟨x | u, t⟩
    · simp only [hds]
    · rw [hds] at hext
      have hft := hf s t hext (Registry.registeredIn_of_registerAll hcs)
      simp only [hds, hft, pure_apply]

/-- A read is registered before what follows it, and its property is found again afterwards. -/
theorem registerThen_cons (c : TypedRead) (cs : List TypedRead) (f : Registry → α)
    (h : α → Property → β) (other : Registry → β) :
    (do
      let name ← pureStep c.columnName
      let p ← property name c.type
      let a ← registerThen cs f
      return h a p) =
      registerThen (c :: cs) fun s =>
        match c.property? s with
        | some p => h (f s) p
        | none => other s := by
  funext r
  simp only [bind_apply, pureStep, registerThen, Registry.registerAll]
  cases hname : c.columnName with
  | error x => rfl
  | ok name =>
    have hext := Registry.extends_registerAll cs (r.property name c.type).2
    simp only [property]
    rcases hcs : Registry.registerAll cs (r.property name c.type).2 with ⟨x | u, s⟩
    · rfl
    · rw [hcs] at hext
      have hp : c.property? s = some (r.property name c.type).1 :=
        TypedRead.property?_mono hext
          (TypedRead.property?_eq_some_iff.mpr ⟨name, hname, r.property?_property name c.type⟩)
      simp only [hp, pure_apply]

end Registering

open Registering

mutual

/-- Normalizing registers the reads of an expression and then puts their properties in place. -/
theorem Expr.normalize_eq (e : Expr) :
    e.normalize = registerThen e.reads fun s => e.withProperties s := by
  cases e with
  | parameter name type => rfl
  | constant v type => rfl
  | captured name v type => rfl
  | call method receiver args =>
    cases method with
    | rowGet type =>
      simp only [Expr.normalize, Expr.normalizeReceiver_eq receiver]
      exact registerThen_cons ⟨type, args⟩ (Expr.receiverReads receiver)
        (fun s => Expr.receiverWithProperties s receiver) (fun a p => Expr.member a (.row p))
        (fun s => Expr.call (.rowGet type) (Expr.receiverWithProperties s receiver) args)
    | named name type =>
      simp only [Expr.normalize, Expr.normalizeReceiver_eq receiver, Expr.normalizeAll_eq args]
      exact registerThen_bind _ _ _ _ _ fun r s hext h =>
        Expr.receiverWithProperties_mono hext receiver h
  | member receiver m =>
    simp only [Expr.normalize, Expr.normalizeReceiver_eq receiver]
    exact registerThen_map _ _ _
  | binary op left right =>
    simp only [Expr.normalize, Expr.normalize_eq left, Expr.normalize_eq right]
    exact registerThen_bind _ _ _ _ _ fun r s hext h => Expr.withProperties_mono hext left h
  | unary op operand =>
    simp only [Expr.normalize, Expr.normalize_eq operand]
    exact registerThen_map _ _ _
  | convert operand type =>
    simp only [Expr.normalize, Expr.normalize_eq operand]
    exact registerThen_map _ _ _

theorem Expr.normalizeReceiver_eq (receiver : Option Expr) :
    Expr.normalizeReceiver receiver =
      registerThen (Expr.receiverReads receiver) fun s =>
        Expr.receiverWithProperties s receiver := by
  cases receiver with
  | none => rfl
  | some e =>
    simp only [Expr.normalizeReceiver, Expr.normalize_eq e]
    exact registerThen_map _ _ _

theorem Expr.normalizeAll_eq (args : List Expr) :
    Expr.normalizeAll args =
      registerThen (Expr.allReads args) fun s => Expr.allWithProperties s args := by
  cases args with
  | nil => rfl
  | cons e rest =>
    simp only [Expr.normalizeAll, Expr.normalize_eq e, Expr.normalizeAll_eq rest]
    exact registerThen_bind _ _ _ _ _ fun r s hext h => Expr.withProperties_mono hext e h

end

/-- Normalizing registers the reads in order and then, if none has failed, puts their properties in
place. -/
theorem Expr.normalizeIn_eq (r : Registry) (e : Expr) :
    e.normalizeIn r =
      match Registry.registerAll e.reads r with
      | (.ok _, s) => (.ok (e.withProperties s), s)
      | (.error x, s) => (.error x, s) := by
  rw [Expr.normalizeIn, Expr.normalize_eq]
  rfl

/-- A normalized expression has the properties of the resulting registry in place of its reads. -/
theorem Expr.eq_withProperties {r s : Registry} {e n : Expr} (h : e.normalizeIn r = (.ok n, s)) :
    r.Extends s ∧ (∀ c ∈ e.reads, c.RegisteredIn s) ∧ n = e.withProperties s := by
  rw [Expr.normalizeIn_eq] at h
  have hext := Registry.extends_registerAll e.reads r
  rcases hreads : Registry.registerAll e.reads r with ⟨x | u, t⟩
  · simp [hreads] at h
  · simp only [hreads, Prod.mk.injEq, Except.ok.injEq] at h
    obtain ⟨rfl, rfl⟩ := h
    rw [hreads] at hext
    exact ⟨hext, Registry.registeredIn_of_registerAll hreads, rfl⟩

/-- An expression whose reads all have properties is normalized without a change of the registry. -/
theorem Expr.normalizeIn_of_registeredIn {r : Registry} {e : Expr}
    (h : ∀ c ∈ e.reads, c.RegisteredIn r) :
    e.normalizeIn r = (.ok (e.withProperties r), r) := by
  rw [Expr.normalizeIn_eq, Registry.registerAll_of_registeredIn h]

end RowQuery
