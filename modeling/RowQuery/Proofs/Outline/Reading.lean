import RowQuery.Proofs.Outline.Regrouping

/-!
Reading operations back from their text. Operators bind by precedence, those of
one precedence from left to right, and unary operators before all others;
parentheses group as they are written. What is read from the text of an outline
is the outline with its chains regrouped to the left, as long as no unary
operator stands before an operation.
-/

namespace RowQuery

namespace BinaryOp

def level : BinaryOp → Nat
  | .or => 0
  | .and => 1
  | .eq | .ne | .gt | .ge | .lt | .le => 2
  | .add | .sub => 3
  | .mul | .div | .mod => 4

variable {op child : BinaryOp}

theorem level_lt_five (op : BinaryOp) : op.level < 5 := by
  cases op <;> decide

/-- Operators that chain bind equally strongly. -/
theorem level_eq_of_chains (h : op.chains child = true) : op.level = child.level := by
  cases op <;> cases child <;> simp [chains] at h <;> rfl

/-- An operation that stands without parentheses goes on with a chain or binds tighter. -/
theorem chains_or_level_lt (h : op.parenthesizes child = false) :
    op.chains child = true ∨ op.level < child.level := by
  cases op <;> cases child <;>
    simp [parenthesizes, bucket, rank] at h <;> simp [chains, level]

end BinaryOp

/-- Left operands and operators whose right operands are not read to their ends, the innermost
first. -/
abbrev Pending := List (Outline × BinaryOp)

namespace Outline

def complete (level : Nat) : Pending → Outline → Pending × Outline
  | [], t => ([], t)
  | (left, op) :: pending, t =>
    if level ≤ op.level then complete level pending (.binary op left t)
    else ((left, op) :: pending, t)

def sign (signs : List UnaryOp) (operand : Outline) : Outline :=
  signs.foldl (fun t op => .unary op t) operand

mutual

/-- Reads on from where an operand has to come. What is pending outside of the open parentheses,
and the unary operators before them, are in `outer`. -/
def readOperand? (outer : List (Pending × List UnaryOp)) (pending : Pending)
    (signs : List UnaryOp) : List Token → Option Outline
  | .word name :: rest => readOperator? outer pending (sign signs (.leaf name)) rest
  | .unary op :: rest => readOperand? outer pending (op :: signs) rest
  | .opening :: rest => readOperand? ((pending, signs) :: outer) [] [] rest
  | _ => none

def readOperator? (outer : List (Pending × List UnaryOp)) (pending : Pending)
    (operand : Outline) : List Token → Option Outline
  | [] => if outer.isEmpty then some (complete 0 pending operand).2 else none
  | .binary op :: rest =>
    let (waiting, left) := complete op.level pending operand
    readOperand? outer ((left, op) :: waiting) [] rest
  | .closing :: rest =>
    match outer with
    | [] => none
    | (waiting, signs) :: outer =>
      readOperator? outer waiting (sign signs (complete 0 pending operand).2) rest
  | _ => none

end

def read? (text : String) : Option Outline :=
  readOperand? [] [] [] (Token.ofText text)

/-- How tightly the outermost operation binds. Other operands bind tighter than all operations. -/
def level : Outline → Nat
  | .binary op _ _ => op.level
  | _ => 5

def isOperation : Outline → Bool
  | .binary _ _ _ => true
  | _ => false

def signsOperation : Outline → Bool
  | .leaf _ => false
  | .unary _ operand => operand.isOperation || operand.signsOperation
  | .binary _ left right => left.signsOperation || right.signsOperation

end Outline

/-- No pending operation binds as tightly as the level, so that it takes no operand away. -/
def Pending.Below (level : Nat) (pending : Pending) : Prop :=
  ∀ e ∈ pending.head?, e.2.level < level

/-- The rest does not start with an operator above the level, which would take the operand away. -/
def Token.NotAbove (level : Nat) (rest : List Token) : Prop :=
  ∀ op, rest.head? = some (.binary op) → op.level ≤ level

section Steps

variable {outer : List (Pending × List UnaryOp)} {pending : Pending} {rest : List Token}
variable {op child : BinaryOp} {left operand t : Outline} {level : Nat}

theorem Pending.below_nil (level : Nat) : Pending.Below level [] := by
  intro e he
  cases he

theorem Pending.below_cons (left : Outline) (pending : Pending) (h : op.level < level) :
    Pending.Below level ((left, op) :: pending) := by
  intro e he
  cases he
  exact h

theorem Pending.Below.mono {level' : Nat} (h : pending.Below level) (hle : level ≤ level') :
    pending.Below level' := by
  intro e he
  have hlt := h e he
  omega

theorem Token.notAbove_binary (rest : List Token) (h : op.level ≤ level) :
    Token.NotAbove level (.binary op :: rest) := by
  intro other hother
  cases hother
  exact h

theorem Token.notAbove_closing (level : Nat) (rest : List Token) :
    Token.NotAbove level (.closing :: rest) := by
  intro op hop
  cases hop

theorem Token.NotAbove.mono {level' : Nat} (h : Token.NotAbove level rest) (hle : level ≤ level') :
    Token.NotAbove level' rest := by
  intro op hop
  have hop := h op hop
  omega

namespace Outline

/-- Operators that bind less strongly stay pending. -/
theorem complete_of_below (h : pending.Below level) (operand : Outline) :
    complete level pending operand = (pending, operand) := by
  cases pending with
  | nil => rfl
  | cons e pending =>
    have hlt := h e rfl
    rw [complete, if_neg (by omega)]

/-- A pending operation ends where no tighter operator follows. -/
theorem readOperator?_pending (h : Token.NotAbove op.level rest) :
    readOperator? outer ((left, op) :: pending) operand rest =
      readOperator? outer pending (.binary op left operand) rest := by
  cases rest with
  | nil => simp [readOperator?, complete]
  | cons token rest =>
    cases token with
    | binary other =>
      have hle := h other rfl
      simp [readOperator?, complete, hle]
    | closing => simp [readOperator?, complete]
    | _ => simp [readOperator?]

/-- An operator takes an operand that nothing pending claims. -/
theorem readOperator?_binary (h : pending.Below op.level) :
    readOperator? outer pending operand (.binary op :: rest) =
      readOperand? outer ((operand, op) :: pending) [] rest := by
  simp [readOperator?, complete_of_below h]

/-- What the tokens of an outline are read as where the outline can be an operand: as a whole, it is
one with its chains regrouped. -/
def ReadsAsOperand (t : Outline) : Prop :=
  ∀ outer pending signs rest, pending.Below t.level → Token.NotAbove t.level rest →
    (signs = [] ∨ t.isOperation = false) →
    readOperand? outer pending signs (t.tokens ++ rest) =
      readOperator? outer pending (sign signs t.leftRotated) rest

/-- What the tokens of an outline are read as behind an operator: as a right operand, it is attached
with its chains regrouped. -/
def ReadsAsRight (t : Outline) : Prop :=
  ∀ outer pending left (op : BinaryOp) rest, pending.Below op.level →
    Token.NotAbove op.level rest →
    readOperator? outer pending left (.binary op :: (op.wrapTokens t t.tokens ++ rest)) =
      readOperator? outer pending (attach op left t.leftRotated) rest

/-- An operand that stands in parentheses or binds tightly enough is read as a whole. -/
theorem ReadsAsOperand.wrapTokens (ht : t.ReadsAsOperand) (op : BinaryOp)
    (h : op.wraps t = false → pending.Below t.level ∧ Token.NotAbove t.level rest) :
    readOperand? outer pending [] (op.wrapTokens t t.tokens ++ rest) =
      readOperator? outer pending t.leftRotated rest := by
  cases hwraps : op.wraps t with
  | true =>
    have hinner := ht ((pending, []) :: outer) [] [] (.closing :: rest)
      (Pending.below_nil t.level) (Token.notAbove_closing t.level rest) (Or.inl rfl)
    simp only [BinaryOp.wrapTokens, hwraps, if_true, List.cons_append, List.append_assoc,
      List.nil_append]
    rw [readOperand?, hinner]
    rfl
  | false =>
    obtain ⟨hpending, hrest⟩ := h hwraps
    simp only [BinaryOp.wrapTokens, hwraps]
    exact ht outer pending [] rest hpending hrest (Or.inl rfl)

/-- A right operand that does not go on with a chain is read as a whole. -/
theorem ReadsAsOperand.attach (ht : t.ReadsAsOperand) (left : Outline)
    (hlevel : op.wraps t = false → op.level < t.level) (hstop : op.continuesIn t = false)
    (hpending : pending.Below op.level) (hrest : Token.NotAbove op.level rest) :
    readOperator? outer pending left (.binary op :: (op.wrapTokens t t.tokens ++ rest)) =
      readOperator? outer pending (attach op left t.leftRotated) rest := by
  have hwhole : op.continuesIn t.leftRotated = false := by
    rw [continuesIn_leftRotated, hstop]
  rw [readOperator?_binary hpending, ht.wrapTokens op, readOperator?_pending hrest,
    attach_of_continuesIn op left hwhole]
  intro hwraps
  have hlt := hlevel hwraps
  exact ⟨Pending.below_cons left pending hlt, hrest.mono (Nat.le_of_lt hlt)⟩

theorem level_of_not_isOperation (h : t.isOperation = false) : t.level = 5 := by
  cases t with
  | binary op l r => simp [isOperation] at h
  | _ => rfl

/-- An operand that is no operation binds tighter than every operator before it. -/
theorem ReadsAsOperand.readsAsRight (ht : t.ReadsAsOperand) (h : t.isOperation = false) :
    t.ReadsAsRight := by
  intro outer pending left op rest hpending hrest
  have hlevel : op.level < t.level := by
    rw [level_of_not_isOperation h]
    exact op.level_lt_five
  have hstop : op.continuesIn t = false := by
    cases t with
    | binary child l r => simp [isOperation] at h
    | _ => rfl
  exact ht.attach left (fun _ => hlevel) hstop hpending hrest

theorem ReadsAsOperand.unary (uop : UnaryOp) (ht : t.ReadsAsOperand) (h : t.isOperation = false) :
    (Outline.unary uop t).ReadsAsOperand := by
  intro outer pending signs rest hpending hrest _
  have hlevel := level_of_not_isOperation h
  have hread := ht outer pending (uop :: signs) rest (hlevel ▸ hpending) (hlevel ▸ hrest)
    (Or.inr h)
  exact hread

/-- Whatever stands without parentheses binds at least as strongly as the operator beside it. -/
theorem level_le_of_not_wraps (h : op.wraps t = false) : op.level ≤ t.level := by
  cases t with
  | binary child l r =>
    rcases BinaryOp.chains_or_level_lt h with hchain | hlt
    · exact Nat.le_of_eq (BinaryOp.level_eq_of_chains hchain)
    · exact Nat.le_of_lt hlt
  | _ => exact Nat.le_of_lt op.level_lt_five

theorem ReadsAsOperand.binary {l r : Outline} (op : BinaryOp) (hl : l.ReadsAsOperand)
    (hr : r.ReadsAsRight) : (Outline.binary op l r).ReadsAsOperand := by
  intro outer pending signs rest hpending hrest hsigns
  have hnosigns : signs = [] := by simpa [isOperation] using hsigns
  subst hnosigns
  have hleft : readOperand? outer pending [] (op.wrapTokens l l.tokens ++
      .binary op :: (op.wrapTokens r r.tokens ++ rest)) =
        readOperator? outer pending l.leftRotated
          (.binary op :: (op.wrapTokens r r.tokens ++ rest)) := by
    apply hl.wrapTokens op
    intro hwraps
    have hlevel := level_le_of_not_wraps hwraps
    exact ⟨hpending.mono hlevel, Token.notAbove_binary _ hlevel⟩
  simp only [tokens, List.append_assoc, List.cons_append]
  rw [hleft, hr outer pending l.leftRotated op rest hpending hrest]
  rfl

theorem wrapTokens_congr (h : op.chains child = true) (t : Outline) (ts : List Token) :
    op.wrapTokens t ts = child.wrapTokens t ts := by
  have hwraps : op.wraps t = child.wraps t := by
    cases t with
    | binary other l r => exact BinaryOp.parenthesizes_congr_left other h
    | _ => rfl
  simp only [BinaryOp.wrapTokens, hwraps]

/-- An operation that goes on with a chain has its left part attached first, then its right one. -/
theorem ReadsAsRight.binary {l r : Outline} (hl : l.ReadsAsRight) (hr : r.ReadsAsRight)
    (ht : (Outline.binary child l r).ReadsAsOperand) :
    (Outline.binary child l r).ReadsAsRight := by
  intro outer pending left op rest hpending hrest
  by_cases hchain : op.chains child = true
  · have hlevel := BinaryOp.level_eq_of_chains hchain
    have hopen : op.wraps (.binary child l r) = false := BinaryOp.parenthesizes_of_chains hchain
    have hbelow : pending.Below child.level := hlevel ▸ hpending
    have hnotAbove : Token.NotAbove child.level rest := hlevel ▸ hrest
    calc
      _ = readOperator? outer pending left (.binary op :: (op.wrapTokens l l.tokens ++
            (.binary child :: (child.wrapTokens r r.tokens ++ rest)))) := by
          rw [wrapTokens_congr hchain l]
          simp [BinaryOp.wrapTokens, hopen, tokens]
      _ = readOperator? outer pending (attach child (attach op left l.leftRotated) r.leftRotated)
            rest := by
          rw [hl outer pending left op _ hpending
              (Token.notAbove_binary _ (Nat.le_of_eq hlevel.symm)),
            hr outer pending _ child rest hbelow hnotAbove]
      _ = _ := by rw [leftRotated, attach_attach hchain]
  · simp only [Bool.not_eq_true] at hchain
    refine ht.attach left ?_ hchain hpending hrest
    intro hwraps
    exact (BinaryOp.chains_or_level_lt hwraps).resolve_left (by simp [hchain])

/-- By induction on the outline, its tokens are read back on the left of an operator and on the
right of one. -/
theorem readsAs (t : Outline) (h : t.signsOperation = false) :
    t.ReadsAsOperand ∧ t.ReadsAsRight := by
  induction t with
  | leaf name =>
    have hoperand : (leaf name).ReadsAsOperand := by
      intro outer pending signs rest _ _ _
      rfl
    exact ⟨hoperand, hoperand.readsAsRight rfl⟩
  | unary op operand ih =>
    simp only [signsOperation, Bool.or_eq_false_iff] at h
    have hoperand := (ih h.2).1.unary op h.1
    exact ⟨hoperand, hoperand.readsAsRight rfl⟩
  | binary op left right ihl ihr =>
    simp only [signsOperation, Bool.or_eq_false_iff] at h
    obtain ⟨hleft, hleft'⟩ := ihl h.1
    obtain ⟨-, hright'⟩ := ihr h.2
    have hoperand := ReadsAsOperand.binary op hleft hright'
    exact ⟨hoperand, hleft'.binary hright' hoperand⟩

/-- The text of an outline is read as the outline with its chains regrouped to the left. -/
theorem read?_text (t : Outline) (hnames : ∀ x ∈ t.names, isPlainName x = true)
    (hsigns : t.signsOperation = false) : read? t.text = some t.leftRotated := by
  have hread := (readsAs t hsigns).1 [] [] [] [] (Pending.below_nil t.level)
    (by intro op hop; cases hop) (Or.inl rfl)
  rw [List.append_nil] at hread
  rw [read?, Token.ofText_text t hnames, hread]
  rfl

example : read? "a sub b add c mul (d add - e)" =
    some (.binary .add (.binary .sub (.leaf "a") (.leaf "b"))
      (.binary .mul (.leaf "c") (.binary .add (.leaf "d") (.unary .negate (.leaf "e"))))) := by
  decide

end Outline

end Steps

end RowQuery
