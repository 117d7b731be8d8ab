import RowQuery.Proofs.Outline.Text

/-!
Chains of operations. An operation that stands as the right operand of one of
its own class can be regrouped to the left, where the class is that of `or`,
that of `and`, or that of `add` and `sub`. Regrouping has a normal form, in
which all chains lean to the left, and does not show in the text.
-/

namespace RowQuery

namespace BinaryOp

/-- Whether two operators are of one class and their operations form a chain, which is written
without parentheses. -/
def chains : BinaryOp → BinaryOp → Bool
  | .or, .or | .and, .and => true
  | .add, .add | .add, .sub | .sub, .add | .sub, .sub => true
  | _, _ => false

section Classes

variable {op child : BinaryOp} (other : BinaryOp)

theorem chains_self_of_chains (h : op.chains child = true) : child.chains op = true := by
  cases op <;> cases child <;> simp [chains] at h ⊢

theorem chains_congr_left (h : op.chains child = true) : op.chains other = child.chains other := by
  cases op <;> cases child <;> simp [chains] at h <;> cases other <;> rfl

theorem chains_congr_right (h : op.chains child = true) : other.chains op = other.chains child := by
  cases op <;> cases child <;> simp [chains] at h <;> cases other <;> rfl

theorem parenthesizes_of_chains (h : op.chains child = true) : op.parenthesizes child = false := by
  cases op <;> cases child <;> simp [chains] at h <;> rfl

theorem parenthesizes_congr_left (h : op.chains child = true) :
    op.parenthesizes other = child.parenthesizes other := by
  cases op <;> cases child <;> simp [chains] at h <;> cases other <;> rfl

theorem parenthesizes_congr_right (h : op.chains child = true) :
    other.parenthesizes op = other.parenthesizes child := by
  cases op <;> cases child <;> simp [chains] at h <;> cases other <;> rfl

end Classes

def continuesIn (op : BinaryOp) : Outline → Bool
  | .binary child _ _ => op.chains child
  | _ => false

end BinaryOp

namespace Outline

/-- An operation whose left operand goes to the start of the chain that the right one is. -/
def attach (op : BinaryOp) (left : Outline) : Outline → Outline
  | .binary child l r =>
    if op.chains child then .binary child (attach op left l) r
    else .binary op left (.binary child l r)
  | right => .binary op left right

/-- The same operations with all chains regrouped to the left. -/
def leftRotated : Outline → Outline
  | .leaf name => .leaf name
  | .unary op operand => .unary op operand.leftRotated
  | .binary op left right => attach op left.leftRotated right.leftRotated

/-- Outlines that differ in the grouping of chains only. -/
inductive Regroups : Outline → Outline → Prop
  | rotate (op child : BinaryOp) (l m r : Outline) (h : op.chains child = true) :
    Regroups (.binary op l (.binary child m r)) (.binary child (.binary op l m) r)
  | refl (t : Outline) : Regroups t t
  | symm {s t : Outline} : Regroups s t → Regroups t s
  | trans {s t u : Outline} : Regroups s t → Regroups t u → Regroups s u
  | unary (op : UnaryOp) {s t : Outline} : Regroups s t → Regroups (.unary op s) (.unary op t)
  | binary (op : BinaryOp) {l l' r r' : Outline} : Regroups l l' → Regroups r r' →
    Regroups (.binary op l r) (.binary op l' r')

variable {op child : BinaryOp} {l m r s t : Outline}

theorem attach_of_continuesIn (op : BinaryOp) (l : Outline) (h : op.continuesIn r = false) :
    attach op l r = .binary op l r := by
  cases r with
  | binary child m u =>
    simp only [BinaryOp.continuesIn] at h
    simp [attach, h]
  | _ => rfl

/-- A right operand that goes on with the operator is taken apart, its left part first. -/
theorem attach_binary (h : op.chains child = true) (l m r : Outline) :
    attach op l (.binary child m r) = .binary child (attach op l m) r := by
  simp [attach, h]

/-- The outermost operator of a chain is one of its class. -/
theorem exists_attach_eq (op : BinaryOp) (l r : Outline) :
    ∃ child m u, attach op l r = .binary child m u ∧ (child = op ∨ op.chains child = true) := by
  cases r with
  | binary child m u =>
    by_cases hchain : op.chains child = true
    · exact ⟨child, attach op l m, u, attach_binary hchain l m u, Or.inr hchain⟩
    · refine ⟨op, l, .binary child m u, ?_, Or.inl rfl⟩
      apply attach_of_continuesIn
      simpa [BinaryOp.continuesIn] using hchain
  | _ => exact ⟨op, l, _, rfl, Or.inl rfl⟩

theorem continuesIn_attach (other op : BinaryOp) (l r : Outline) :
    other.continuesIn (attach op l r) = other.chains op := by
  obtain ⟨child, m, u, hattach, hchild⟩ := exists_attach_eq op l r
  rw [hattach]
  rcases hchild with rfl | hchain
  · rfl
  · exact (BinaryOp.chains_congr_right other hchain).symm

theorem continuesIn_leftRotated (op : BinaryOp) (t : Outline) :
    op.continuesIn t.leftRotated = op.continuesIn t := by
  cases t with
  | binary child l r => exact continuesIn_attach op child l.leftRotated r.leftRotated
  | _ => rfl

/-- Attaching to a chain that was itself attached gives one chain. -/
theorem attach_attach (h : op.chains child = true) (l m r : Outline) :
    attach op l (attach child m r) = attach child (attach op l m) r := by
  induction r with
  | binary other u v ih =>
    by_cases hchain : child.chains other = true
    · have hop : op.chains other = true := by rw [BinaryOp.chains_congr_left other h, hchain]
      rw [attach_binary hchain, attach_binary hchain, attach_binary hop, ih]
    · have hstop : child.continuesIn (.binary other u v) = false := by
        simpa [BinaryOp.continuesIn] using hchain
      rw [attach_of_continuesIn child _ hstop, attach_of_continuesIn child _ hstop,
        attach_binary h]
  | _ => rw [attach_of_continuesIn child _ rfl, attach_of_continuesIn child _ rfl, attach_binary h]

theorem regroups_attach (op : BinaryOp) (l r : Outline) :
    Regroups (.binary op l r) (attach op l r) := by
  induction r with
  | binary child m u ih =>
    by_cases hchain : op.chains child = true
    · rw [attach_binary hchain]
      exact (Regroups.rotate op child l m u hchain).trans (ih.binary child (.refl u))
    · have hstop : op.continuesIn (.binary child m u) = false := by
        simpa [BinaryOp.continuesIn] using hchain
      rw [attach_of_continuesIn op l hstop]
      exact .refl _
  | _ => exact .refl _

/-- Every outline can be regrouped to the left. -/
theorem regroups_leftRotated (t : Outline) : t.Regroups t.leftRotated := by
  induction t with
  | leaf name => exact .refl _
  | unary op operand ih => exact ih.unary op
  | binary op left right ihl ihr =>
    exact (ihl.binary op ihr).trans (regroups_attach op left.leftRotated right.leftRotated)

theorem leftRotated_eq_iff : s.leftRotated = t.leftRotated ↔ s.Regroups t := by
  constructor
  · intro h
    have hs := regroups_leftRotated s
    rw [h] at hs
    exact hs.trans (regroups_leftRotated t).symm
  · intro h
    induction h with
    | rotate op child l m r h => exact attach_attach h l.leftRotated m.leftRotated r.leftRotated
    | refl t => rfl
    | symm _ ih => exact ih.symm
    | trans _ _ ih ih' => exact ih.trans ih'
    | unary op _ ih => rw [leftRotated, leftRotated, ih]
    | binary op _ _ ihl ihr => rw [leftRotated, leftRotated, ihl, ihr]

/-- Grouping within chains leaves no trace in a text, nor in whether it is put in parentheses. -/
theorem Regroups.text_eq (h : s.Regroups t) :
    s.text = t.text ∧ ∀ op : BinaryOp, op.wraps s = op.wraps t := by
  induction h with
  | rotate op child l m r h =>
    constructor
    · have hright : op.wraps (.binary child m r) = false := BinaryOp.parenthesizes_of_chains h
      have hleft : child.wraps (.binary op l m) = false :=
        BinaryOp.parenthesizes_of_chains (BinaryOp.chains_self_of_chains h)
      have hmiddle : child.wraps m = op.wraps m := by
        cases m with
        | binary other u v => exact (BinaryOp.parenthesizes_congr_left other h).symm
        | _ => rfl
      simp [text, BinaryOp.wrapText, hright, hleft, hmiddle, String.append_assoc]
    · exact fun other => BinaryOp.parenthesizes_congr_right other h
  | refl t => exact ⟨rfl, fun _ => rfl⟩
  | symm _ ih => exact ⟨ih.1.symm, fun op => (ih.2 op).symm⟩
  | trans _ _ ih ih' => exact ⟨ih.1.trans ih'.1, fun op => (ih.2 op).trans (ih'.2 op)⟩
  | unary op _ ih =>
    constructor
    · rw [text, text, ih.1]
    · exact fun _ => rfl
  | binary op _ _ ihl ihr =>
    constructor
    · simp only [text, BinaryOp.wrapText, ihl.1, ihl.2, ihr.1, ihr.2]
    · exact fun _ => rfl

end Outline

end RowQuery
