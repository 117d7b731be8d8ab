import Mathlib.Data.List.Forall2
import RowQuery.Expr.Counterpart
import RowQuery.Node.Text

/-!
Nodes that differ in the properties they read and in nothing else. What makes
nodes from nodes looks at their types alone, so corresponding nodes with equal
types lead to corresponding nodes, or in both cases to none. Their texts are
put together in the same way and differ in names of properties only.
-/

namespace RowQuery

section Results

variable {ε ε' α α' β β' : Type} {S : α → α' → Prop} {T : β → β' → Prop}

def ResultsCorrespond (S : α → α' → Prop) : Except ε α → Except ε' α' → Prop
  | .ok a, .ok b => S a b
  | .error _, .error _ => True
  | _, _ => False

/-- Steps that take corresponding results to corresponding results end alike in sequence. -/
theorem ResultsCorrespond.bind {x : Except ε α} {y : Except ε' α'} {f : α → Except ε β}
    {g : α' → Except ε' β'} (h : ResultsCorrespond S x y)
    (hf : ∀ a b, S a b → ResultsCorrespond T (f a) (g b)) :
    ResultsCorrespond T (x >>= f) (y >>= g) := by
  cases x with
  | error x =>
    cases y with
    | error y => trivial
    | ok b => exact h.elim
  | ok a =>
    cases y with
    | error y => exact h.elim
    | ok b => exact hf a b h

end Results

/-- Texts that are put together in the same way from equal texts and from texts that `N` relates. -/
inductive Text.Corresponds (N : String → String → Prop) : String → String → Prop
  | same (s : String) : Text.Corresponds N s s
  | related {s t : String} (h : N s t) : Text.Corresponds N s t
  | append {s s' t t' : String} (h : Text.Corresponds N s t) (h' : Text.Corresponds N s' t') :
    Text.Corresponds N (s ++ s') (t ++ t')

inductive Member.Corresponds (R : Property → Property → Prop) : Member → Member → Prop
  | same (m : Member) : Member.Corresponds R m m
  | property {p q : Property} (h : R p q) : Member.Corresponds R (.row p) (.row q)

structure MemberPath.Corresponds (R : Property → Property → Prop) (p q : MemberPath) : Prop where
  parents : List.Forall₂ (Member.Corresponds R) p.parents q.parents
  last : p.last.Corresponds R q.last

mutual

/-- The same node but for properties that `R` relates. -/
inductive Node.Corresponds (R : Property → Property → Prop) : Node → Node → Prop
  | binary (op : BinaryOp) {l l' r r' : Node} (hl : Node.Corresponds R l l')
    (hr : Node.Corresponds R r r') : Node.Corresponds R (.binary op l r) (.binary op l' r')
  | unary (op : UnaryOp) {n n' : Node} (h : Node.Corresponds R n n') :
    Node.Corresponds R (.unary op n) (.unary op n')
  | call (f : QueryFunction) (type : EdmType) {args args' : List Node}
    (h : Node.AllCorrespond R args args') :
    Node.Corresponds R (.call f args type) (.call f args' type)
  | constant (v : Value) (type : EdmType) : Node.Corresponds R (.constant v type) (.constant v type)
  | member {p q : MemberPath} (h : p.Corresponds R q) : Node.Corresponds R (.member p) (.member q)
  | convert (type : EdmType) {n n' : Node} (h : Node.Corresponds R n n') :
    Node.Corresponds R (.convert n type) (.convert n' type)

inductive Node.AllCorrespond (R : Property → Property → Prop) : List Node → List Node → Prop
  | nil : Node.AllCorrespond R [] []
  | cons {n n' : Node} {ns ns' : List Node} (h : Node.Corresponds R n n')
    (hs : Node.AllCorrespond R ns ns') : Node.AllCorrespond R (n :: ns) (n' :: ns')

end

section Types

variable {R : Property → Property → Prop} (hR : ∀ p q, R p q → p.columnType = q.columnType)
include hR

theorem Member.Corresponds.type_eq {m n : Member} (h : m.Corresponds R n) : m.type = n.type := by
  cases h with
  | same => rfl
  | property h => exact congrArg ColumnType.edmType (hR _ _ h)

theorem Node.Corresponds.type_eq : {n n' : Node} → n.Corresponds R n' → n.type = n'.type
  | _, _, .binary op hl _ => by simp only [Node.type, hl.type_eq]
  | _, _, .unary _ h => h.type_eq
  | _, _, .call _ _ _ => rfl
  | _, _, .constant _ _ => rfl
  | _, _, .member h => h.last.type_eq hR
  | _, _, .convert _ _ => rfl

end Types

namespace Node

variable {R : Property → Property → Prop} {l l' r r' : Node} {args args' : List Node}

theorem orCounterpart_corresponds {x y : Except NodeError Node}
    (h : ResultsCorrespond (Corresponds R) x y) :
    ResultsCorrespond (Corresponds R) (orCounterpart x) (orCounterpart y) := by
  cases x <;> cases y <;> exact h

theorem makeConvert_corresponds (type : EdmType) (h : l.Corresponds R l') :
    ResultsCorrespond (Corresponds R) (makeConvert l type) (makeConvert l' type) := by
  unfold makeConvert
  split_ifs
  · exact .convert type h
  · trivial

theorem ofMethod?_corresponds (name : String) (hr : r.Corresponds R r')
    (hargs : AllCorrespond R args args') :
    Option.Rel (Corresponds R) (ofMethod? name r args) (ofMethod? name r' args') := by
  unfold ofMethod?
  cases StringMethod.ofName? name with
  | none => exact .none
  | some m =>
    cases m with
    | startsWith | endsWith | indexOf =>
      rcases hargs with _ | ⟨h, _ | ⟨-, -⟩⟩
      · exact .none
      · exact .some (.call _ _ (.cons hr (.cons h .nil)))
      · exact .none
    | contains =>
      rcases hargs with _ | ⟨h, _ | ⟨-, -⟩⟩
      · exact .none
      · exact .some (.call _ _ (.cons h (.cons hr .nil)))
      · exact .none
    | toLower | toUpper | trim | length =>
      rcases hargs with _ | ⟨-, -⟩
      · exact .some (.call _ _ (.cons hr .nil))
      · exact .none

section Types

variable (hR : ∀ p q, R p q → p.columnType = q.columnType)
include hR

theorem makeBinary_corresponds (op : BinaryOp) (hl : l.Corresponds R l')
    (hr : r.Corresponds R r') :
    ResultsCorrespond (Corresponds R) (makeBinary l op r) (makeBinary l' op r') := by
  unfold makeBinary
  rw [← hl.type_eq hR, ← hr.type_eq hR]
  split_ifs
  · exact .binary op hl hr
  · trivial

/-- Corresponding operands give corresponding operations, or the same refusal. -/
theorem ofOperation_corresponds (op : BinaryOp) (hl : l.Corresponds R l')
    (hr : r.Corresponds R r') :
    ResultsCorrespond (Corresponds R) (ofOperation op l r) (ofOperation op l' r') := by
  unfold ofOperation
  rw [← hl.type_eq hR, ← hr.type_eq hR]
  apply orCounterpart_corresponds
  split_ifs
  · exact makeBinary_corresponds hR op hl hr
  · exact (makeConvert_corresponds r.type hl).bind fun a b h => makeBinary_corresponds hR op h hr
  · exact (makeConvert_corresponds l.type hr).bind fun a b h => makeBinary_corresponds hR op hl h
  · exact makeBinary_corresponds hR op hl hr

theorem ofConversion_corresponds (type : EdmType) (h : l.Corresponds R l') :
    ResultsCorrespond (Corresponds R) (ofConversion l type) (ofConversion l' type) := by
  unfold ofConversion
  rw [← h.type_eq hR]
  split_ifs
  · exact h
  · exact orCounterpart_corresponds (makeConvert_corresponds type h)

end Types

end Node

section Texts

variable {N : String → String → Prop} {R : Property → Property → Prop}

theorem Text.Corresponds.intercalate (separator : String) {ss ts : List String}
    (h : List.Forall₂ (Text.Corresponds N) ss ts) :
    Text.Corresponds N (separator.intercalate ss) (separator.intercalate ts) := by
  induction h with
  | nil => exact .same _
  | cons hfirst hrest ih =>
    cases hrest with
    | nil => simpa using hfirst
    | cons =>
      rw [String.intercalate_cons_cons, String.intercalate_cons_cons]
      exact .append (.append hfirst (.same _)) ih

def Property.NamesRelatedBy (R : Property → Property → Prop) (s t : String) : Prop :=
  ∃ p q, R p q ∧ s = p.name ∧ t = q.name

theorem Member.Corresponds.name {m n : Member} (h : m.Corresponds R n) :
    Text.Corresponds (Property.NamesRelatedBy R) m.name n.name := by
  cases h with
  | same => exact .same _
  | property h => exact .related ⟨_, _, h, rfl, rfl⟩

/-- Corresponding paths are written alike up to the names of their properties. -/
theorem MemberPath.Corresponds.text {p q : MemberPath} (h : p.Corresponds R q) :
    Text.Corresponds (Property.NamesRelatedBy R) p.text q.text := by
  have hmembers : List.Forall₂ (Member.Corresponds R) p.members q.members :=
    List.rel_append h.parents (.cons h.last .nil)
  refine Text.Corresponds.intercalate _ ?_
  rw [List.forall₂_map_left_iff, List.forall₂_map_right_iff]
  exact hmembers.imp fun _ _ hm => hm.name

theorem BinaryOp.wrap_corresponds (op : BinaryOp) {n n' : Node} {t t' : String}
    (h : n.Corresponds R n') (ht : Text.Corresponds N t t') :
    Text.Corresponds N (op.wrap n t) (op.wrap n' t') := by
  cases h with
  | binary child hl hr =>
    simp only [BinaryOp.wrap]
    split_ifs
    · exact .append (.append (.same _) ht) (.same _)
    · exact ht
  | unary | call | constant | member | convert => exact ht

theorem optionRel_bind {α α' β β' : Type} {S : α → α' → Prop} {T : β → β' → Prop} {x : Option α}
    {y : Option α'} {f : α → Option β} {g : α' → Option β'} (h : Option.Rel S x y)
    (hf : ∀ a b, S a b → Option.Rel T (f a) (g b)) : Option.Rel T (x >>= f) (y >>= g) := by
  cases h with
  | none => exact .none
  | some h => exact hf _ _ h

mutual

/-- Corresponding nodes have corresponding texts, or neither has one. -/
theorem Node.Corresponds.text? (hR : ∀ p q, R p q → p.columnType = q.columnType) :
    {n n' : Node} → n.Corresponds R n' →
      Option.Rel (Text.Corresponds (Property.NamesRelatedBy R)) n.text? n'.text?
  | _, _, .binary op hl hr => by
    simp only [Node.text?]
    refine optionRel_bind (hl.text? hR) fun l l' hltext =>
      optionRel_bind (hr.text? hR) fun r r' hrtext => ?_
    have hleft := op.wrap_corresponds hl hltext
    have hright := op.wrap_corresponds hr hrtext
    exact .some (.append (.append (.append (.append hleft (.same _)) (.same _)) (.same _)) hright)
  | _, _, .unary op h => by
    simp only [Node.text?]
    exact optionRel_bind (h.text? hR) fun t t' ht => .some (.append (.same _) ht)
  | _, _, .call f type h => by
    simp only [Node.text?]
    refine optionRel_bind (h.texts? hR) fun ts ts' hts => ?_
    exact .some (.append (.append (.same _) (.intercalate _ hts)) (.same _))
  | _, _, .constant v type => by
    simp only [Node.text?]
    cases v.literal? type with
    | none => exact .none
    | some t => exact .some (.same t)
  | _, _, .member h => by
    simp only [Node.text?]
    exact .some h.text
  | .convert n _, .convert n' _, .convert type h => by
    have himplicit : n.isImplicit type = n'.isImplicit type := by
      rw [Node.isImplicit, Node.isImplicit, h.type_eq hR]
    simp only [Node.text?, himplicit]
    refine optionRel_bind (h.text? hR) fun t t' ht => ?_
    by_cases hn : n'.isImplicit type = true
    · simp only [if_pos hn]
      exact .some ht
    · simp only [if_neg hn]
      cases type.keyword? with
      | none => exact .none
      | some k =>
        have hcast : Text.Corresponds (Property.NamesRelatedBy R) ("cast(" ++ t ++ ", ")
            ("cast(" ++ t' ++ ", ") := .append (.append (.same _) ht) (.same _)
        exact .some (.append (.append hcast (.same k)) (.same ")"))

theorem Node.AllCorrespond.texts? (hR : ∀ p q, R p q → p.columnType = q.columnType) :
    {ns ns' : List Node} → Node.AllCorrespond R ns ns' →
      Option.Rel (List.Forall₂ (Text.Corresponds (Property.NamesRelatedBy R))) (Node.texts? ns)
        (Node.texts? ns')
  | _, _, .nil => .some .nil
  | _, _, .cons h hs => by
    simp only [Node.texts?]
    exact optionRel_bind (h.text? hR) fun t t' ht =>
      optionRel_bind (hs.texts? hR) fun ts ts' hts => .some (.cons ht hts)

end

end Texts

end RowQuery
