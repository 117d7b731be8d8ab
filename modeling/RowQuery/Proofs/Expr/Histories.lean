import RowQuery.Proofs.Expr.Agreement
import RowQuery.Proofs.Node.Correspondence
import RowQuery.Proofs.Node.Printing

/-!
One expression normalized against two registries. Whether it can be normalized
and what keeps it from being normalized does not depend on what was requested
before; the history decides only how the properties of its typed reads are
spelled and numbered. Values, types and nodes do not show the difference, and
texts show the spelling alone.
-/

namespace RowQuery

/-- Whether the reads of an expression can be registered depends on no registry. -/
theorem Registry.registerAll_fst (cs : List TypedRead) (r s : Registry) :
    (registerAll cs r).1 = (registerAll cs s).1 := by
  induction cs generalizing r s with
  | nil => rfl
  | cons c rest ih =>
    simp only [registerAll]
    cases c.columnName with
    | error x => rfl
    | ok name => exact ih _ _

/-- An expression has the same error in all registries, or it is normalized in all of them. -/
theorem Expr.normalizeIn_cases (e : Expr) :
    (∃ x, ∀ r, (e.normalizeIn r).1 = .error x) ∨
      ∀ r, ∃ s, Registry.registerAll e.reads r = (.ok (), s) ∧
        e.normalizeIn r = (.ok (e.withProperties s), s) ∧ ∀ c ∈ e.reads, c.RegisteredIn s := by
  cases hempty : (Registry.registerAll e.reads .empty).1 with
  | error x =>
    refine Or.inl ⟨x, fun r => ?_⟩
    rw [Registry.registerAll_fst e.reads .empty r] at hempty
    rw [Expr.normalizeIn_eq]
    rcases hr : Registry.registerAll e.reads r with ⟨y | u, s⟩
    · simpa [hr] using hempty
    · simp [hr] at hempty
  | ok u =>
    refine Or.inr fun r => ?_
    rw [Registry.registerAll_fst e.reads .empty r] at hempty
    rw [Expr.normalizeIn_eq]
    rcases hr : Registry.registerAll e.reads r with ⟨y | u, s⟩
    · simp [hr] at hempty
    · exact ⟨s, rfl, rfl, Registry.registeredIn_of_registerAll hr⟩

/-- Two properties that registries hold for the same typed read of an expression. -/
def Expr.ReadAs (e : Expr) (r s : Registry) (p q : Property) : Prop :=
  ∃ c ∈ e.reads, c.property? r = some p ∧ c.property? s = some q

/-- Properties for the same read have the same column type and the same name up to case. -/
theorem TypedRead.key_eq_of_property? {r s : Registry} {c : TypedRead} {p q : Property}
    (hp : c.property? r = some p) (hq : c.property? s = some q) : p.key = q.key := by
  obtain ⟨m, hm, hp⟩ := property?_eq_some_iff.mp hp
  obtain ⟨n, hn, hq⟩ := property?_eq_some_iff.mp hq
  obtain rfl : m = n := Except.ok.inj (hm.symm.trans hn)
  obtain ⟨hptype, hpkey⟩ := Registry.property?_key hp
  obtain ⟨hqtype, hqkey⟩ := Registry.property?_key hq
  rw [Property.key, Property.key, hptype, hqtype, hpkey, hqkey]

theorem Expr.ReadAs.key_eq {e : Expr} {r s : Registry} {p q : Property} (h : e.ReadAs r s p q) :
    p.key = q.key := by
  obtain ⟨c, -, hp, hq⟩ := h
  exact TypedRead.key_eq_of_property? hp hq

section Counterparts

variable {r s : Registry} {R : Property → Property → Prop}

def TypedRead.RelatedBy (R : Property → Property → Prop) (r s : Registry) (c : TypedRead) : Prop :=
  ∃ p q, c.property? r = some p ∧ c.property? s = some q ∧ R p q

def Expr.isParameter : Expr → Bool
  | .parameter _ _ => true
  | _ => false

theorem Expr.isParameter_withProperties (r : Registry) (e : Expr) :
    (e.withProperties r).isParameter = e.isParameter := by
  cases e with
  | call method receiver args =>
    cases method with
    | rowGet type =>
      simp only [Expr.withProperties]
      cases (TypedRead.mk type args).property? r <;> rfl
    | named name type => rfl
  | parameter | constant | captured | member | binary | unary | convert => rfl

theorem Expr.toPath_member_some (e : Expr) (m : Member) :
    (Expr.member (some e) m).toPath =
      if e.isParameter then .ok (.ofMember m) else do return (← e.toPath).extend m := by
  cases e <;> rfl

theorem MemberPath.Corresponds.extend {p q : MemberPath} {m n : Member} (h : p.Corresponds R q)
    (hm : m.Corresponds R n) : (p.extend m).Corresponds R (q.extend n) :=
  ⟨List.rel_append h.parents (.cons h.last .nil), hm⟩

mutual

/-- Reads of corresponding properties are translated to corresponding paths, or fail alike. -/
theorem Expr.toPath_corresponds (e : Expr) (h : ∀ c ∈ e.reads, c.RelatedBy R r s) :
    ResultsCorrespond (MemberPath.Corresponds R) (e.withProperties r).toPath
      (e.withProperties s).toPath := by
  cases e with
  | call method receiver args =>
    cases method with
    | rowGet type =>
      simp only [Expr.reads, List.forall_mem_cons] at h
      obtain ⟨p, q, hp, hq, hpq⟩ := h.1
      simp only [Expr.withProperties, hp, hq]
      exact Expr.toPath_member_corresponds receiver (.property hpq) h.2
    | named name type => trivial
  | member receiver m => exact Expr.toPath_member_corresponds receiver (.same m) h
  | parameter | constant | captured | binary | unary | convert => trivial

theorem Expr.toPath_member_corresponds (receiver : Option Expr) {m n : Member}
    (hm : m.Corresponds R n) (h : ∀ c ∈ Expr.receiverReads receiver, c.RelatedBy R r s) :
    ResultsCorrespond (MemberPath.Corresponds R)
      (Expr.member (Expr.receiverWithProperties r receiver) m).toPath
      (Expr.member (Expr.receiverWithProperties s receiver) n).toPath := by
  cases receiver with
  | none => exact ⟨.nil, hm⟩
  | some e =>
    simp only [Expr.receiverWithProperties, Expr.toPath_member_some,
      Expr.isParameter_withProperties]
    by_cases hparameter : e.isParameter = true
    · simp only [if_pos hparameter]
      exact ⟨.nil, hm⟩
    · simp only [if_neg hparameter]
      exact (Expr.toPath_corresponds e h).bind fun p q hpq => hpq.extend hm

end

theorem Node.ofConstant_corresponds (v : Value) (type : ColumnType) :
    ResultsCorrespond (Node.Corresponds R) (Node.ofConstant v type) (Node.ofConstant v type) := by
  cases h : Node.ofConstant v type with
  | error x => trivial
  | ok n =>
    obtain ⟨t, rfl, -⟩ := Node.ofConstant_cases h
    exact .constant v t

theorem Expr.member_toNode_corresponds (receiver : Option Expr) {m n : Member}
    (hm : m.Corresponds R n) (h : ∀ c ∈ Expr.receiverReads receiver, c.RelatedBy R r s) :
    ResultsCorrespond (Node.Corresponds R)
      (Expr.member (Expr.receiverWithProperties r receiver) m).toNode
      (Expr.member (Expr.receiverWithProperties s receiver) n).toNode :=
  (Expr.toPath_member_corresponds receiver hm h).bind fun _ _ hp => .member hp

mutual

/-- The node of an expression shows the registry in the properties of its typed reads only. -/
theorem Expr.toNode_corresponds (hR : ∀ p q, R p q → p.columnType = q.columnType) (e : Expr)
    (h : ∀ c ∈ e.reads, c.RelatedBy R r s) :
    ResultsCorrespond (Node.Corresponds R) (e.withProperties r).toNode
      (e.withProperties s).toNode := by
  cases e with
  | parameter name type => trivial
  | constant v type | captured name v type => exact Node.ofConstant_corresponds v type
  | call method receiver args =>
    cases method with
    | rowGet type =>
      simp only [Expr.reads, List.forall_mem_cons] at h
      obtain ⟨p, q, hp, hq, hpq⟩ := h.1
      simp only [Expr.withProperties, hp, hq]
      exact Expr.member_toNode_corresponds receiver (.property hpq) h.2
    | named name type =>
      simp only [Expr.reads, List.forall_mem_append] at h
      simp only [Expr.withProperties, Expr.toNode]
      refine (Expr.receiverToNode_corresponds hR _ _ receiver h.1).bind fun n n' hn =>
        (Expr.toNodes_corresponds hR args h.2).bind fun ns ns' hns => ?_
      have hcall := Node.ofMethod?_corresponds name hn hns
      generalize Node.ofMethod? name n ns = a at hcall ⊢
      generalize Node.ofMethod? name n' ns' = a' at hcall ⊢
      cases hcall with
      | none => trivial
      | some hnode => exact hnode
  | member receiver m => exact Expr.member_toNode_corresponds receiver (.same m) h
  | binary op left right =>
    simp only [Expr.reads, List.forall_mem_append] at h
    exact (Expr.toNode_corresponds hR left h.1).bind fun l l' hl =>
      (Expr.toNode_corresponds hR right h.2).bind fun n n' hn =>
        Node.ofOperation_corresponds hR op hl hn
  | unary op operand =>
    exact (Expr.toNode_corresponds hR operand h).bind fun n n' hn => .unary op hn
  | convert operand type =>
    exact (Expr.toNode_corresponds hR operand h).bind fun n n' hn =>
      Node.ofConversion_corresponds hR type.edmType hn

theorem Expr.receiverToNode_corresponds (hR : ∀ p q, R p q → p.columnType = q.columnType)
    (call call' : String) (receiver : Option Expr)
    (h : ∀ c ∈ Expr.receiverReads receiver, c.RelatedBy R r s) :
    ResultsCorrespond (Node.Corresponds R)
      (Expr.receiverToNode call (Expr.receiverWithProperties r receiver))
      (Expr.receiverToNode call' (Expr.receiverWithProperties s receiver)) := by
  cases receiver with
  | none => trivial
  | some e => exact Expr.toNode_corresponds hR e h

theorem Expr.toNodes_corresponds (hR : ∀ p q, R p q → p.columnType = q.columnType)
    (args : List Expr) (h : ∀ c ∈ Expr.allReads args, c.RelatedBy R r s) :
    ResultsCorrespond (Node.AllCorrespond R) (Expr.toNodes (Expr.allWithProperties r args))
      (Expr.toNodes (Expr.allWithProperties s args)) := by
  cases args with
  | nil => exact .nil
  | cons e rest =>
    simp only [Expr.allReads, List.forall_mem_append] at h
    exact (Expr.toNode_corresponds hR e h.1).bind fun n n' hn =>
      (Expr.toNodes_corresponds hR rest h.2).bind fun ns ns' hns => .cons hn hns

end

end Counterparts

/-- Two nodes of one type that differ in related properties only, and so do their texts. -/
structure Node.DifferInNames (R : Property → Property → Prop) (a b : Node) : Prop where
  type : a.type = b.type
  node : a.Corresponds R b
  text : ∃ s t, a.text? = some s ∧ b.text? = some t ∧
    Text.Corresponds (Property.NamesRelatedBy R) s t

theorem Expr.ReadAs.columnType_eq {e : Expr} {r s : Registry} (p q : Property)
    (h : e.ReadAs r s p q) : p.columnType = q.columnType :=
  congrArg Prod.fst h.key_eq

theorem Expr.relatedBy_readAs {e : Expr} {r s : Registry} (hr : ∀ c ∈ e.reads, c.RegisteredIn r)
    (hs : ∀ c ∈ e.reads, c.RegisteredIn s) : ∀ c ∈ e.reads, c.RelatedBy (e.ReadAs r s) r s := by
  intro c hc
  obtain ⟨p, hp⟩ := hr c hc
  obtain ⟨q, hq⟩ := hs c hc
  exact ⟨p, q, hp, hq, c, hc, hp, hq⟩

/-- The nodes of an expression with the properties of two registries. -/
theorem Expr.toNode_differInNames {e : Expr} {r s : Registry}
    (hr : ∀ c ∈ e.reads, c.RegisteredIn r) (hs : ∀ c ∈ e.reads, c.RegisteredIn s) :
    ResultsCorrespond (Node.DifferInNames (e.ReadAs r s)) (e.withProperties r).toNode
      (e.withProperties s).toNode := by
  have hnodes := Expr.toNode_corresponds Expr.ReadAs.columnType_eq e (Expr.relatedBy_readAs hr hs)
  cases hm : (e.withProperties r).toNode with
  | error x =>
    cases hn : (e.withProperties s).toNode with
    | error y => trivial
    | ok b => simp [hm, hn, ResultsCorrespond] at hnodes
  | ok a =>
    cases hn : (e.withProperties s).toNode with
    | error y => simp [hm, hn, ResultsCorrespond] at hnodes
    | ok b =>
      rw [hm, hn] at hnodes
      have hab : a.Corresponds (e.ReadAs r s) b := hnodes
      obtain ⟨t, ht⟩ := Option.isSome_iff_exists.mp (Expr.isSome_text?_toNode _ hm)
      obtain ⟨u, hu⟩ := Option.isSome_iff_exists.mp (Expr.isSome_text?_toNode _ hn)
      have htexts := hab.text? Expr.ReadAs.columnType_eq
      rw [ht, hu] at htexts
      cases htexts with
      | some htu => exact ⟨hab.type_eq Expr.ReadAs.columnType_eq, hab, t, u, ht, hu, htu⟩

/-- What was requested before shows in the spelling and the numbers of the properties only: not in
the error, nor in values, types or the structure of nodes, and in texts in the spelling alone. -/
theorem Expr.normalizeIn_alike (e : Expr) (r s : Registry) :
    (∃ x, (e.normalizeIn r).1 = .error x ∧ (e.normalizeIn s).1 = .error x) ∨
      ∃ r' s', e.normalizeIn r = (.ok (e.withProperties r'), r') ∧
        e.normalizeIn s = (.ok (e.withProperties s'), s') ∧
        (∀ c ∈ e.reads, ∃ p q, c.property? r' = some p ∧ c.property? s' = some q ∧
          p.columnType = q.columnType ∧ columnKey p.name = columnKey q.name) ∧
        (∀ b, ((e.withProperties r').evaluate b).mapError EvalError.kind =
          ((e.withProperties s').evaluate b).mapError EvalError.kind) ∧
        ResultsCorrespond (MemberPath.Corresponds (e.ReadAs r' s')) (e.withProperties r').toPath
          (e.withProperties s').toPath ∧
        ResultsCorrespond (Node.DifferInNames (e.ReadAs r' s')) (e.withProperties r').toNode
          (e.withProperties s').toNode := by
  rcases e.normalizeIn_cases with ⟨x, hx⟩ | hok
  · exact Or.inl ⟨x, hx r, hx s⟩
  · obtain ⟨r', -, hr, hrreads⟩ := hok r
    obtain ⟨s', -, hs, hsreads⟩ := hok s
    refine Or.inr ⟨r', s', hr, hs, ?_, ?_, ?_, Expr.toNode_differInNames hrreads hsreads⟩
    · intro c hc
      obtain ⟨p, q, hp, hq, hpq⟩ := Expr.relatedBy_readAs hrreads hsreads c hc
      have hkey := hpq.key_eq
      exact ⟨p, q, hp, hq, congrArg Prod.fst hkey, congrArg Prod.snd hkey⟩
    · intro b
      have kind_eq {t : Registry} (ht : ∀ c ∈ e.reads, c.RegisteredIn t) :=
        Expr.evaluate_withProperties b t e ht (Or.inl EvalError.kind_forgetsReceivers)
          (Or.inl EvalError.kind_forgetsSpelling)
      rw [kind_eq hrreads, kind_eq hsreads]
    · exact Expr.toPath_corresponds e (Expr.relatedBy_readAs hrreads hsreads)

end RowQuery
