import RowQuery.Proofs.Outline.Distinction
import RowQuery.Proofs.Value.Integers

/-!
Outlines as arithmetic on integers. Regrouping a chain to the left keeps the
number where an addition takes the chain as its right operand. A subtraction
then takes away the first term of the chain only and adds or takes away the
later ones as the chain itself does, so the number is kept exactly if the chain
is worth its first term.
-/

namespace RowQuery

namespace BinaryOp

def isAdditive : BinaryOp → Bool
  | .add | .sub => true
  | _ => false

variable {op child : BinaryOp}

theorem chains_add (child : BinaryOp) : BinaryOp.add.chains child = child.isAdditive := by
  cases child <;> rfl

theorem chains_sub (child : BinaryOp) : BinaryOp.sub.chains child = child.isAdditive := by
  cases child <;> rfl

theorem isAdditive_of_chains (h : op.chains child = true) : child.isAdditive = op.isAdditive := by
  cases op <;> cases child <;> simp [chains] at h <;> rfl

theorem isArithmetic_of_chains (h : op.chains child = true) :
    child.isArithmetic = op.isArithmetic := by
  cases op <;> cases child <;> simp [chains] at h <;> rfl

theorem isAdditive_cases (h : op.isAdditive = true) : op = .add ∨ op = .sub := by
  cases op <;> simp [isAdditive] at h <;> simp

/-- Multiplication, division and remainder make no chains. -/
theorem continuesIn_of_not_isAdditive (hop : op.isArithmetic = true) (h : op.isAdditive = false)
    (t : Outline) : op.continuesIn t = false := by
  cases t with
  | binary child l r =>
    cases op <;> simp [isArithmetic, rank] at hop <;> simp [isAdditive] at h <;>
      cases child <;> rfl
  | _ => rfl

end BinaryOp

namespace Outline

/-- The number of an outline that has arithmetic operators only, for numbers of its names. -/
def number (env : String → Int) : Outline → Int
  | .leaf name => env name
  | .unary _ _ => 0
  | .binary op left right => op.onIntegers (left.number env) (right.number env)

def firstTerm : Outline → Outline
  | .binary op left right => if op.isAdditive then left.firstTerm else .binary op left right
  | t => t

def isArithmetic : Outline → Bool
  | .leaf _ => true
  | .unary _ _ => false
  | .binary op left right => op.isArithmetic && left.isArithmetic && right.isArithmetic

/-- Whatever is subtracted is worth its first term. -/
def Balanced (env : String → Int) : Outline → Prop
  | .binary op left right =>
    left.Balanced env ∧ right.Balanced env ∧
      (op = .sub → right.number env = right.firstTerm.number env)
  | _ => True

variable {env : String → Int} {op : BinaryOp} {l r t : Outline}

theorem firstTerm_binary (hop : op.isAdditive = true) (l r : Outline) :
    (binary op l r).firstTerm = l.firstTerm := by
  rw [firstTerm, if_pos hop]

theorem firstTerm_binary_self (hop : op.isAdditive = false) (l r : Outline) :
    (binary op l r).firstTerm = binary op l r := by
  rw [firstTerm, hop]
  rfl

theorem isArithmetic_attach (op : BinaryOp) (l r : Outline) :
    (attach op l r).isArithmetic = (binary op l r).isArithmetic := by
  induction r with
  | binary child m u ih =>
    by_cases hchain : op.chains child = true
    · rw [attach_binary hchain, isArithmetic, ih]
      simp only [isArithmetic, BinaryOp.isArithmetic_of_chains hchain]
      grind
    · rw [attach_of_continuesIn op l (by simpa [BinaryOp.continuesIn] using hchain)]
  | _ => rfl

theorem isArithmetic_leftRotated (t : Outline) : t.leftRotated.isArithmetic = t.isArithmetic := by
  induction t with
  | leaf name => rfl
  | unary op operand ih => rfl
  | binary op left right ihl ihr =>
    rw [leftRotated, isArithmetic_attach, isArithmetic, isArithmetic, ihl, ihr]

theorem hasSigns_of_isArithmetic (h : t.isArithmetic = true) : t.hasSigns = false := by
  induction t with
  | leaf name => rfl
  | unary op operand ih => cases h
  | binary op left right ihl ihr =>
    simp only [isArithmetic, Bool.and_eq_true] at h
    simp [hasSigns, ihl h.1.2, ihr h.2]

/-- Attaching at the start of a chain keeps what the left operand starts with. -/
theorem firstTerm_attach (hop : op.isAdditive = true) (l r : Outline) :
    (attach op l r).firstTerm = l.firstTerm := by
  induction r with
  | binary child m u ih =>
    by_cases hchain : op.chains child = true
    · have hchild : child.isAdditive = true := by rw [BinaryOp.isAdditive_of_chains hchain, hop]
      rw [attach_binary hchain, firstTerm_binary hchild, ih]
    · rw [attach_of_continuesIn op l (by simpa [BinaryOp.continuesIn] using hchain),
        firstTerm_binary hop]
  | _ => exact firstTerm_binary hop l _

theorem firstTerm_attach_self (hop : op.isAdditive = false) (l r : Outline) :
    (attach op l r).firstTerm = attach op l r := by
  obtain ⟨child, m, u, hattach, hchild⟩ := exists_attach_eq op l r
  have hadditive : child.isAdditive = false := by
    rcases hchild with rfl | hchain
    · exact hop
    · rw [BinaryOp.isAdditive_of_chains hchain, hop]
  rw [hattach, firstTerm_binary_self hadditive]

/-- Regrouping to the left keeps the first term of a sum, itself regrouped. -/
theorem firstTerm_leftRotated (t : Outline) :
    t.leftRotated.firstTerm = t.firstTerm.leftRotated := by
  induction t with
  | leaf name => rfl
  | unary op operand ih => rfl
  | binary op left right ihl ihr =>
    cases hop : op.isAdditive with
    | true => rw [leftRotated, firstTerm_attach hop, ihl, firstTerm_binary hop]
    | false => rw [firstTerm_binary_self hop, leftRotated, firstTerm_attach_self hop]

/-- Attaching to a sum adds to its number. -/
theorem number_attach_add (env : String → Int) (l r : Outline) :
    (attach .add l r).number env = l.number env + r.number env := by
  induction r with
  | binary child m u ih =>
    by_cases hchain : BinaryOp.add.chains child = true
    · rw [attach_binary hchain, number, ih]
      rw [BinaryOp.chains_add] at hchain
      rcases BinaryOp.isAdditive_cases hchain with rfl | rfl <;>
        simp only [number, BinaryOp.onIntegers] <;> omega
    · rw [attach_of_continuesIn .add l (by simpa [BinaryOp.continuesIn] using hchain)]
      rfl
  | _ => rfl

/-- Of a chain that is subtracted, only the first term is taken away after regrouping. -/
theorem number_attach_sub (env : String → Int) (l r : Outline) :
    (attach .sub l r).number env =
      l.number env - r.firstTerm.number env + (r.number env - r.firstTerm.number env) := by
  induction r with
  | binary child m u ih =>
    by_cases hchain : BinaryOp.sub.chains child = true
    · rw [attach_binary hchain, number, ih]
      rw [BinaryOp.chains_sub] at hchain
      rw [firstTerm_binary hchain]
      rcases BinaryOp.isAdditive_cases hchain with rfl | rfl <;>
        simp only [number, BinaryOp.onIntegers] <;> omega
    · rw [attach_of_continuesIn .sub l (by simpa [BinaryOp.continuesIn] using hchain)]
      rw [BinaryOp.chains_sub, Bool.not_eq_true] at hchain
      rw [firstTerm_binary_self hchain, number, BinaryOp.onIntegers]
      omega
  | _ =>
    simp only [attach, firstTerm, number, BinaryOp.onIntegers]
    omega

/-- A subtraction of a chain keeps its number exactly if the chain is worth its first term. -/
theorem number_attach_sub_eq_iff (env : String → Int) (l r : Outline) :
    (attach .sub l r).number env = l.number env - r.number env ↔
      r.number env = r.firstTerm.number env := by
  rw [number_attach_sub]
  omega

/-- Where all that is subtracted is worth its first term, regrouping to the left keeps the number of
an outline and that of its first term. Both go through one induction, because a chain starts inside
its left operand. -/
theorem Balanced.number_leftRotated (ht : t.isArithmetic = true) (h : t.Balanced env) :
    t.leftRotated.number env = t.number env ∧
      t.firstTerm.leftRotated.number env = t.firstTerm.number env := by
  induction t with
  | leaf name => exact ⟨rfl, rfl⟩
  | unary op operand ih => cases ht
  | binary op left right ihl ihr =>
    simp only [isArithmetic, Bool.and_eq_true] at ht
    obtain ⟨hl, hr, hsub⟩ := h
    obtain ⟨hleft, hleftFirst⟩ := ihl ht.1.2 hl
    obtain ⟨hright, hrightFirst⟩ := ihr ht.2 hr
    have hnumber : (binary op left right).leftRotated.number env =
        (binary op left right).number env := by
      cases hop : op.isAdditive with
      | true =>
        rcases BinaryOp.isAdditive_cases hop with rfl | rfl
        · rw [leftRotated, number_attach_add, hleft, hright]
          rfl
        · rw [leftRotated, number, BinaryOp.onIntegers, ← hleft, ← hright,
            number_attach_sub_eq_iff, firstTerm_leftRotated, hright, hrightFirst]
          exact hsub rfl
      | false =>
        rw [leftRotated, attach_of_continuesIn op _
          (BinaryOp.continuesIn_of_not_isAdditive ht.1.1 hop _), number, number, hleft, hright]
    refine ⟨hnumber, ?_⟩
    cases hop : op.isAdditive with
    | true => rwa [firstTerm_binary hop]
    | false => rwa [firstTerm_binary_self hop]

/-- A subtraction of balanced operands keeps its number exactly if it is balanced itself. -/
theorem number_leftRotated_sub_eq_iff (hl : l.isArithmetic = true) (hr : r.isArithmetic = true)
    (hlb : l.Balanced env) (hrb : r.Balanced env) :
    (binary .sub l r).leftRotated.number env = (binary .sub l r).number env ↔
      r.number env = r.firstTerm.number env := by
  obtain ⟨hright, hfirst⟩ := hrb.number_leftRotated hr
  rw [leftRotated, number, BinaryOp.onIntegers, ← (hlb.number_leftRotated hl).1, ← hright,
    number_attach_sub_eq_iff, firstTerm_leftRotated, hright, hfirst]

end Outline

end RowQuery
