import RowQuery.Proofs.Expr.Histories
import RowQuery.Proofs.Registry

/-!
What a failed attempt to normalize leaves behind. The properties that were given
out before the failure stay in the registry, so later expressions can find them:
columns then have the spelling of the failed attempt, and new properties have
higher numbers. Nothing else about a later attempt is different, and nothing is
different at all if the two go the same way as far as the shorter one goes.
-/

namespace RowQuery

namespace Registry

theorem Extends.antisymm {r s : Registry} (hrs : r.Extends s) (hsr : s.Extends r) : r = s := by
  obtain ⟨ps⟩ := r
  obtain ⟨qs⟩ := s
  exact congrArg Registry.mk (hrs.eq_of_length_le hsr.length_le)

theorem Extends.concat {r s : Registry} {p : Property} (h : r.Extends s)
    (hp : s.properties[r.size]? = some p) : Extends ⟨r.properties ++ [p]⟩ s := by
  have htake : r.properties = s.properties.take r.size := List.prefix_iff_eq_take.mp h
  have hconcat : r.properties ++ [p] = s.properties.take (r.size + 1) := by
    rw [List.take_add_one, ← htake, hp]
    rfl
  rw [Extends, hconcat]
  exact List.take_prefix _ _

/-- What a registry has come to hold since an earlier time is numbered by its places. -/
structure Grows (r s : Registry) : Prop where
  kept : r.Extends s
  numbered : ∀ (i : Nat) (p : Property), r.size ≤ i → s.properties[i]? = some p → p.ordinal = i + 1

section Growth

variable {r s : Registry}

theorem Grows.refl (r : Registry) : r.Grows r where
  kept := Extends.refl r
  numbered i p hi hp := by
    obtain ⟨hlt, -⟩ := List.getElem?_eq_some_iff.mp hp
    exact absurd hlt (Nat.not_lt.mpr hi)

theorem Grows.property (h : r.Grows s) (name : String) (type : ColumnType) :
    r.Grows (s.property name type).2 := by
  rcases s.property_cases name type with ⟨p, -, hp⟩ | ⟨-, hp⟩
  · rw [hp]
    exact h
  · rw [hp]
    refine ⟨h.kept.trans (List.prefix_append _ _), fun i q hi hq => ?_⟩
    rcases Nat.lt_trichotomy i s.size with hlt | rfl | hgt
    · exact h.numbered i q hi ((List.getElem?_append_left hlt).symm.trans hq)
    · obtain rfl := Option.some.inj (List.getElem?_concat_length.symm.trans hq)
      rfl
    · obtain ⟨hlt, -⟩ := List.getElem?_eq_some_iff.mp hq
      rw [List.length_append] at hlt
      exact absurd hlt (Nat.not_lt.mpr hgt)

theorem Grows.registerAll (h : r.Grows s) (cs : List TypedRead) :
    r.Grows (registerAll cs s).2 := by
  induction cs generalizing s with
  | nil => exact h
  | cons c rest ih =>
    simp only [Registry.registerAll]
    cases c.columnName with
    | error x => exact h
    | ok name => exact ih (h.property name c.type)

end Growth

section TwoRuns

variable {r s t r' s' : Registry} {name : String} {type : ColumnType} {cs : List TypedRead}

theorem extends_of_registerAll {result : Except NormalizeError Unit}
    (h : registerAll cs r = (result, r')) : r.Extends r' := by
  have hext := extends_registerAll cs r
  rwa [h] at hext

/-- There is no stage between a registry and the one after the next request. -/
theorem eq_or_eq_of_extends_property (hrs : r.Extends s)
    (hs : s.Extends (r.property name type).2) : s = r ∨ s = (r.property name type).2 := by
  rcases r.property_cases name type with ⟨p, -, hp⟩ | ⟨-, hp⟩
  · rw [hp] at hs
    exact Or.inl (hs.antisymm hrs)
  · rw [hp] at hs ⊢
    rcases List.prefix_concat_iff.mp hs with heq | hs
    · exact Or.inr (congrArg Registry.mk heq)
    · exact Or.inl (Extends.antisymm hs hrs)

/-- On the way to one registry, a request to an earlier and to a later stage has the same effect, or
the later stage has what the earlier one lacks. -/
theorem property_of_between (hrs : r.Extends s) (hs : s.Extends t)
    (hr : (r.property name type).2.Extends t) :
    (s.property name type).2 = (r.property name type).2 ∨
      (s.property name type).2 = s ∧ (r.property name type).2.Extends s := by
  have hfound := r.property?_property name type
  rcases List.prefix_or_prefix_of_prefix hs hr with hsr | hrs'
  · rcases eq_or_eq_of_extends_property hrs hsr with rfl | rfl
    · exact Or.inl rfl
    · exact Or.inl (by rw [property_of_some hfound])
  · exact Or.inr ⟨by rw [property_of_some (property?_mono hrs' hfound)], hrs'⟩

/-- Requests that lead through a later stage lead from there to the same end. -/
theorem registerAll_of_between (hrs : r.Extends s) (h : s.Extends (registerAll cs r).2) :
    (registerAll cs s).2 = (registerAll cs r).2 := by
  induction cs generalizing r s with
  | nil => exact h.antisymm hrs
  | cons c rest ih =>
    simp only [registerAll] at h ⊢
    cases hname : c.columnName with
    | error x =>
      simp only [hname] at h
      exact h.antisymm hrs
    | ok name =>
      simp only [hname] at h ⊢
      rcases property_of_between hrs h (extends_registerAll rest _) with heq | ⟨hs, hext⟩
      · rw [heq]
      · rw [hs]
        exact ih hext h

/-- The same property for a request to an earlier and to a later stage is in the same place. Where
the key is new to the earlier stage, that place is the next one there, as the number of the property
says. -/
theorem Grows.property_of_eq (h : r.Grows s)
    (heq : (r.property name type).1 = (s.property name type).1) :
    (r.property name type).2.Grows (s.property name type).2 := by
  have hgrows := h.property name type
  have hfound := s.property?_property name type
  rw [← heq] at hfound
  rcases r.property_cases name type with ⟨p, -, hp⟩ | ⟨hnone, hp⟩
  · rw [hp]
    exact hgrows
  · rw [hp] at hfound ⊢
    obtain ⟨i, hi⟩ := List.getElem?_of_mem (List.mem_of_find?_eq_some hfound)
    have hplace : r.size ≤ i := by
      refine Nat.le_of_not_lt fun hlt => ?_
      obtain ⟨later, hlater⟩ := hgrows.kept
      rw [← hlater, List.getElem?_append_left hlt] at hi
      exact key_ne_of_property?_eq_none hnone _ (List.mem_of_getElem? hi) rfl
    obtain rfl : r.size = i := Nat.succ.inj (hgrows.numbered i _ hplace hi)
    refine ⟨hgrows.kept.concat hi, fun i q hi hq => hgrows.numbered i q ?_ hq⟩
    exact Nat.le_trans (List.prefix_append r.properties _).length_le hi

/-- The first of several requests is answered as if it were the only one. -/
theorem property?_registerAll {c : TypedRead} (hname : c.columnName = .ok name) (s : Registry)
    (rest : List TypedRead) :
    c.property? (registerAll rest (s.property name c.type).2).2 =
      some (s.property name c.type).1 := by
  have hfound := property?_mono (extends_registerAll rest _) (s.property?_property name c.type)
  exact TypedRead.property?_eq_some_iff.mpr ⟨name, hname, hfound⟩

/-- Requests that get the same properties at an earlier and at a later stage find those that are new
to the earlier one in what the later one has. -/
theorem Grows.extends_of_property?_eq (h : r.Grows s)
    (hr : Registry.registerAll cs r = (.ok (), r')) (hs : Registry.registerAll cs s = (.ok (), s'))
    (heq : ∀ c ∈ cs, c.property? r' = c.property? s') : r'.Extends s' := by
  induction cs generalizing r s with
  | nil =>
    obtain rfl : r = r' := congrArg Prod.snd hr
    obtain rfl : s = s' := congrArg Prod.snd hs
    exact h.kept
  | cons c rest ih =>
    simp only [Registry.registerAll] at hr hs
    cases hname : c.columnName with
    | error x => simp [hname] at hr
    | ok name =>
      simp only [hname] at hr hs
      rw [List.forall_mem_cons] at heq
      have hrfound := property?_registerAll hname r rest
      have hsfound := property?_registerAll hname s rest
      rw [hr] at hrfound
      rw [hs] at hsfound
      rw [hrfound, hsfound, Option.some.injEq] at heq
      exact ih (h.property_of_eq heq.1) hr hs heq.2

/-- A name that is not known gets known by a request for it, in whatever spelling, only. -/
theorem property?_property_of_none (h : r.property? name type = none) (requested : String)
    (requestedType : ColumnType) :
    (r.property requested requestedType).2.property? name type =
      if (requestedType, columnKey requested) = (type, columnKey name) then
        some ⟨r.size + 1, requested, requestedType⟩
      else none := by
  rcases r.property_cases requested requestedType with ⟨p, hfound, hp⟩ | ⟨-, hp⟩
  · have hkey : ¬(requestedType, columnKey requested) = (type, columnKey name) := by
      rintro heq
      obtain ⟨rfl, hname⟩ := Prod.mk.inj heq
      rw [property?_congr r requestedType hname, h] at hfound
      cases hfound
    rw [hp, if_neg hkey]
    exact h
  · rw [hp]
    unfold property? at *
    rw [List.find?_append, h, Option.none_or, List.find?_singleton]
    simp only [Property.key, beq_iff_eq]

/-- A name that two registries do not know is spelled by the first request for it in both. -/
theorem spelling_registerAll (hr : r.property? name type = none)
    (hs : s.property? name type = none) (cs : List TypedRead) :
    (registerAll cs r).2.spelling name type = (registerAll cs s).2.spelling name type := by
  induction cs generalizing r s with
  | nil => simp only [registerAll, spelling, hr, hs]
  | cons c rest ih =>
    simp only [registerAll]
    cases hname : c.columnName with
    | error x => simp only [spelling, hr, hs]
    | ok requested =>
      have hr' := property?_property_of_none hr requested c.type
      have hs' := property?_property_of_none hs requested c.type
      by_cases hkey : (c.type, columnKey requested) = (type, columnKey name)
      · rw [if_pos hkey] at hr' hs'
        simp only [spelling_of_property? (property?_mono (extends_registerAll rest _) hr'),
          spelling_of_property? (property?_mono (extends_registerAll rest _) hs')]
      · rw [if_neg hkey] at hr' hs'
        exact ih hr' hs'

end TwoRuns

end Registry

section Trees

variable {r s : Registry}

mutual

/-- An expression shows the property of each of its typed reads. -/
theorem Expr.property?_eq_of_withProperties_eq (e : Expr) (hr : ∀ c ∈ e.reads, c.RegisteredIn r)
    (hs : ∀ c ∈ e.reads, c.RegisteredIn s) (h : e.withProperties r = e.withProperties s) :
    ∀ c ∈ e.reads, c.property? r = c.property? s := by
  cases e with
  | parameter name type | constant v type | captured name v type => simp [Expr.reads]
  | call method receiver args =>
    cases method with
    | rowGet type =>
      simp only [Expr.reads, List.forall_mem_cons] at hr hs ⊢
      obtain ⟨p, hp⟩ := hr.1
      obtain ⟨q, hq⟩ := hs.1
      simp only [Expr.withProperties, hp, hq, Expr.member.injEq, Member.row.injEq] at h
      refine ⟨?_, Expr.property?_eq_of_receiverWithProperties_eq receiver hr.2 hs.2 h.1⟩
      rw [hp, hq, h.2]
    | named name type =>
      simp only [Expr.reads, List.forall_mem_append] at hr hs ⊢
      simp only [Expr.withProperties, Expr.call.injEq] at h
      exact ⟨Expr.property?_eq_of_receiverWithProperties_eq receiver hr.1 hs.1 h.2.1,
        Expr.property?_eq_of_allWithProperties_eq args hr.2 hs.2 h.2.2⟩
  | member receiver m =>
    simp only [Expr.withProperties, Expr.member.injEq] at h
    exact Expr.property?_eq_of_receiverWithProperties_eq receiver hr hs h.1
  | binary op left right =>
    simp only [Expr.reads, List.forall_mem_append] at hr hs ⊢
    simp only [Expr.withProperties, Expr.binary.injEq] at h
    exact ⟨Expr.property?_eq_of_withProperties_eq left hr.1 hs.1 h.2.1,
      Expr.property?_eq_of_withProperties_eq right hr.2 hs.2 h.2.2⟩
  | unary op operand =>
    simp only [Expr.withProperties, Expr.unary.injEq] at h
    exact Expr.property?_eq_of_withProperties_eq operand hr hs h.2
  | convert operand type =>
    simp only [Expr.withProperties, Expr.convert.injEq] at h
    exact Expr.property?_eq_of_withProperties_eq operand hr hs h.1

theorem Expr.property?_eq_of_receiverWithProperties_eq (receiver : Option Expr)
    (hr : ∀ c ∈ Expr.receiverReads receiver, c.RegisteredIn r)
    (hs : ∀ c ∈ Expr.receiverReads receiver, c.RegisteredIn s)
    (h : Expr.receiverWithProperties r receiver = Expr.receiverWithProperties s receiver) :
    ∀ c ∈ Expr.receiverReads receiver, c.property? r = c.property? s := by
  cases receiver with
  | none => simp [Expr.receiverReads]
  | some e => exact Expr.property?_eq_of_withProperties_eq e hr hs (Option.some.inj h)

theorem Expr.property?_eq_of_allWithProperties_eq (args : List Expr)
    (hr : ∀ c ∈ Expr.allReads args, c.RegisteredIn r)
    (hs : ∀ c ∈ Expr.allReads args, c.RegisteredIn s)
    (h : Expr.allWithProperties r args = Expr.allWithProperties s args) :
    ∀ c ∈ Expr.allReads args, c.property? r = c.property? s := by
  cases args with
  | nil => simp [Expr.allReads]
  | cons e rest =>
    simp only [Expr.allReads, List.forall_mem_append] at hr hs ⊢
    simp only [Expr.allWithProperties, List.cons.injEq] at h
    exact ⟨Expr.property?_eq_of_withProperties_eq e hr.1 hs.1 h.1,
      Expr.property?_eq_of_allWithProperties_eq rest hr.2 hs.2 h.2⟩

end

end Trees

/-- A failed attempt leaves a later stage of the same registry. -/
theorem Expr.grows_of_normalizeIn_error {r s : Registry} {e : Expr} {x : NormalizeError}
    (h : e.normalizeIn r = (.error x, s)) : r.Grows s := by
  have hgrows := (Registry.Grows.refl r).registerAll e.reads
  rw [Expr.normalizeIn_eq] at h
  rcases hreads : Registry.registerAll e.reads r with ⟨y | u, t⟩
  · simp only [hreads, Prod.mk.injEq] at h hgrows
    exact h.2 ▸ hgrows
  · simp [hreads] at h

section Attempts

variable {r s r' s' : Registry} {e : Expr}

/-- A typed read in two attempts of which the second finds a larger registry. -/
theorem TypedRead.properties_of_registerAll {cs : List TypedRead} {c : TypedRead}
    (hrs : r.Extends s) (hr : Registry.registerAll cs r = (.ok (), r'))
    (hs : Registry.registerAll cs s = (.ok (), s')) (hc : c ∈ cs) :
    ∃ p q, c.property? r' = some p ∧ c.property? s' = some q ∧
      p.columnType = q.columnType ∧ columnKey p.name = columnKey q.name ∧
      (c.RegisteredIn r → p = q) ∧ (¬c.RegisteredIn s → p.name = q.name) := by
  obtain ⟨p, hp⟩ := Registry.registeredIn_of_registerAll hr c hc
  obtain ⟨q, hq⟩ := Registry.registeredIn_of_registerAll hs c hc
  have hkey := TypedRead.key_eq_of_property? hp hq
  refine ⟨p, q, hp, hq, congrArg Prod.fst hkey, congrArg Prod.snd hkey, ?_, ?_⟩
  · rintro ⟨o, ho⟩
    have hpo := TypedRead.property?_mono (Registry.extends_of_registerAll hr) ho
    have hqo := TypedRead.property?_mono (hrs.trans (Registry.extends_of_registerAll hs)) ho
    rw [Option.some.inj (hp.symm.trans hpo), Option.some.inj (hq.symm.trans hqo)]
  · intro hunknown
    obtain ⟨name, hname, hp⟩ := property?_eq_some_iff.mp hp
    obtain ⟨name', hname', hq⟩ := property?_eq_some_iff.mp hq
    obtain rfl : name = name' := Except.ok.inj (hname.symm.trans hname')
    have hnone {t : Registry} (ht : t.Extends s) : t.property? name c.type = none := by
      refine Option.eq_none_iff_forall_ne_some.mpr fun o ho => hunknown ⟨o, ?_⟩
      exact property?_eq_some_iff.mpr ⟨name, hname, Registry.property?_mono ht ho⟩
    have hspelling := Registry.spelling_registerAll (hnone hrs) (hnone (.refl s)) cs
    rwa [hr, hs, Registry.spelling_of_property? hp, Registry.spelling_of_property? hq]
      at hspelling

/-- An expression gets the same properties from an earlier stage as from a later one exactly if, of
the later stage and the end of the earlier registration, one extends the other. -/
theorem Expr.withProperties_eq_iff (h : r.Grows s)
    (hr : Registry.registerAll e.reads r = (.ok (), r'))
    (hs : Registry.registerAll e.reads s = (.ok (), s')) :
    e.withProperties r' = e.withProperties s' ↔ s.Extends r' ∨ r'.Extends s := by
  have hrreads := Registry.registeredIn_of_registerAll hr
  have hsreads := Registry.registeredIn_of_registerAll hs
  constructor
  · -- both the registry after the failure and the one without it lead to what is reached in the end
    intro heq
    have hreads := Expr.property?_eq_of_withProperties_eq e hrreads hsreads heq
    exact List.prefix_or_prefix_of_prefix (Registry.extends_of_registerAll hs)
      (h.extends_of_property?_eq hr hs hreads)
  · rintro (hsr | hrs)
    · have hend : (Registry.registerAll e.reads s).2 = (Registry.registerAll e.reads r).2 :=
        Registry.registerAll_of_between h.kept (by rwa [hr])
      rw [hr, hs] at hend
      exact congrArg e.withProperties hend.symm
    · have hreads : ∀ c ∈ e.reads, c.RegisteredIn s := fun c hc =>
        (hrreads c hc).imp fun p hp => TypedRead.property?_mono hrs hp
      rw [Registry.registerAll_of_registeredIn hreads, Prod.mk.injEq] at hs
      rw [← hs.2, Expr.withProperties_mono hrs e hrreads]

end Attempts

/-- After a failed attempt an expression has the same error as without it, or it is normalized as
without it, but for the spelling of columns that were first requested in the failed attempt and for
the numbers of properties that were not given out before it. It is normalized to the same exactly
if the properties given out by one of the two are the first ones given out by the other. -/
theorem Expr.normalizeIn_after_error {r s : Registry} {e₁ : Expr} {x : NormalizeError}
    (h : e₁.normalizeIn r = (.error x, s)) (e₂ : Expr) :
    (∃ y, (e₂.normalizeIn r).1 = .error y ∧ (e₂.normalizeIn s).1 = .error y) ∨
      ∃ m n r' s', e₂.normalizeIn r = (.ok m, r') ∧ e₂.normalizeIn s = (.ok n, s') ∧
        m = e₂.withProperties r' ∧ n = e₂.withProperties s' ∧
        (∀ c ∈ e₂.reads, ∃ p q, c.property? r' = some p ∧ c.property? s' = some q ∧
          p.columnType = q.columnType ∧ columnKey p.name = columnKey q.name ∧
          (c.RegisteredIn r → p = q) ∧ (¬c.RegisteredIn s → p.name = q.name)) ∧
        (m = n ↔ s.Extends r' ∨ r'.Extends s) := by
  have hgrows := Expr.grows_of_normalizeIn_error h
  rcases e₂.normalizeIn_cases with ⟨y, hy⟩ | hok
  · exact Or.inl ⟨y, hy r, hy s⟩
  · obtain ⟨r', hr, hm, -⟩ := hok r
    obtain ⟨s', hs, hn, -⟩ := hok s
    exact Or.inr ⟨_, _, r', s', hm, hn, rfl, rfl,
      fun c hc => TypedRead.properties_of_registerAll hgrows.kept hr hs hc,
      Expr.withProperties_eq_iff hgrows hr hs⟩

def Expr.ageAndNameless : Expr :=
  .binary .and
    (.binary .gt (.column (.row "r") (.ofEdm .int32) "age") (.ofValue (.int32 1)))
    (.binary .eq (.column (.row "r") .string "") (.ofValue (.string "x")))

/-- A name in the spelling of the failed attempt is read as without that attempt. -/
theorem Expr.normalizeIn_after_error_age :
    ageAndNameless.normalizeIn .empty = (.error (.blank .string), .ofAge) ∧
      ∃ n r' s', (column (.row "r") (.ofEdm .int32) "age").normalizeIn .empty = (.ok n, r') ∧
        (column (.row "r") (.ofEdm .int32) "age").normalizeIn .ofAge = (.ok n, s') := by
  have hfails : ageAndNameless.normalizeIn .empty = (.error (.blank .string), .ofAge) := rfl
  refine ⟨hfails, ?_⟩
  rcases Expr.normalizeIn_after_error hfails (column (.row "r") (.ofEdm .int32) "age") with
    ⟨y, hy, -⟩ | ⟨m, n, r', s', hm, hn, -, -, -, hiff⟩
  · cases hy
  · obtain rfl : Registry.ofAge = r' := congrArg Prod.snd hm
    obtain rfl : m = n := hiff.mpr (Or.inl (.refl _))
    exact ⟨m, _, s', hm, hn⟩

/-- A name in another spelling gets that of the failed attempt. -/
theorem Expr.normalizeIn_after_error_respelled :
    ∃ s x, ageAndNameless.normalizeIn .empty = (.error x, s) ∧
      ((column (.row "r") (.ofEdm .int32) "AGE").normalizeIn s).1 ≠
        ((column (.row "r") (.ofEdm .int32) "AGE").normalizeIn .empty).1 := by
  refine ⟨.ofAge, .blank .string, rfl, fun h => ?_⟩
  have hafter : ((column (.row "r") (.ofEdm .int32) "AGE").normalizeIn .ofAge).1 =
      .ok (.member (some (.row "r")) (.row ⟨1, "age", .ofEdm .int32⟩)) := rfl
  have hbefore : ((column (.row "r") (.ofEdm .int32) "AGE").normalizeIn .empty).1 =
      .ok (.member (some (.row "r")) (.row ⟨1, "AGE", .ofEdm .int32⟩)) := rfl
  rw [hafter, hbefore] at h
  simp at h

end RowQuery
