import RowQuery.Expr.Counterpart
import RowQuery.Node.Text

/-!
Implicit conversions in texts. A conversion to a wider type has the text of its
operand. The operation around it does not look beneath it, however, so that an
operation there is not put in parentheses, although it is as an operand itself.
These parentheses are all that the conversions change in the text.
-/

namespace RowQuery

namespace Node

/-- The node with implicit conversions replaced by their operands. Parts of nodes that are neither
operations nor implicit conversions stay as they are. -/
def bare : Node → Node
  | .binary op left right => .binary op left.bare right.bare
  | .convert operand type =>
    if operand.isImplicit type then operand.bare else .convert operand type
  | n => n

def operator? : Node → Option BinaryOp
  | .binary op _ _ => some op
  | .convert operand type => if operand.isImplicit type then operand.operator? else none
  | _ => none

end Node

/-- Whether an operand would be put in parentheses if it were not beneath implicit conversions. -/
def BinaryOp.losesParentheses (op : BinaryOp) : Node → Bool
  | .convert operand type => operand.isImplicit type && operand.operator?.any op.parenthesizes
  | _ => false

def Node.losesParentheses : Node → Bool
  | .binary op left right =>
    (op.losesParentheses left || left.losesParentheses) ||
      (op.losesParentheses right || right.losesParentheses)
  | .convert operand type => operand.isImplicit type && operand.losesParentheses
  | _ => false

/-- What a text shows of a full one: all of it, or, if something is lost, less. -/
inductive Text.LostIn : Bool → String → String → Prop where
  | same (text : String) : LostIn false text text
  | longer {shown full : String} (h : shown.length < full.length) : LostIn true shown full

section Losses

variable {lost lost' : Bool} {t t' u u' : String}

theorem Text.lostIn_self (text? : Option String) :
    Option.Rel (Text.LostIn false) text? text? := by
  cases text? with
  | none => exact .none
  | some text => exact .some (.same text)

namespace Text.LostIn

/-- Losing parentheses never makes a text longer. -/
theorem length_le (h : LostIn lost t u) : t.length ≤ u.length := by
  cases h with
  | same => exact Nat.le_refl _
  | longer hlt => exact Nat.le_of_lt hlt

/-- A text is unchanged exactly if no parentheses were lost. -/
theorem eq_iff (h : LostIn lost t u) : u = t ↔ lost = false := by
  cases h with
  | same => simp
  | longer hlt =>
    constructor
    · rintro rfl
      omega
    · intro hfalse
      cases hfalse

theorem append (h : LostIn lost t u) (h' : LostIn lost' t' u') (between : String) :
    LostIn (lost || lost') (t ++ between ++ t') (u ++ between ++ u') := by
  have hle' := h'.length_le
  cases h with
  | same =>
    cases h' with
    | same => exact .same _
    | longer hlt =>
      apply LostIn.longer
      simp only [String.length_append]
      omega
  | longer hlt =>
    apply LostIn.longer
    simp only [String.length_append]
    omega

theorem parenthesized (h : LostIn lost t u) :
    LostIn lost ("(" ++ t ++ ")") ("(" ++ u ++ ")") := by
  cases h with
  | same => exact .same _
  | longer hlt =>
    apply LostIn.longer
    simp only [String.length_append]
    omega

theorem opened (h : LostIn lost t u) : LostIn true t ("(" ++ u ++ ")") := by
  have hle := h.length_le
  have hopening : "(".length = 1 := rfl
  apply LostIn.longer
  simp only [String.length_append]
  omega

end Text.LostIn

/-- Without the conversions, an operand is put in parentheses by its operator. -/
theorem BinaryOp.wrap_bare (op : BinaryOp) (n : Node) (text : String) :
    op.wrap n.bare text =
      if n.operator?.any op.parenthesizes then "(" ++ text ++ ")" else text := by
  cases n with
  | binary child left right => rfl
  | convert operand type =>
    by_cases himplicit : operand.isImplicit type = true
    · have hoperand := op.wrap_bare operand text
      simpa [Node.bare, Node.operator?, himplicit] using hoperand
    · simp [Node.bare, Node.operator?, himplicit, BinaryOp.wrap]
  | _ => rfl

/-- An operator loses the parentheses of an operand behind an implicit conversion: it sees the
conversion, and only without it what stands beneath. -/
theorem Text.LostIn.wrap (h : Text.LostIn lost t u) (op : BinaryOp) (n : Node) :
    Text.LostIn (op.losesParentheses n || lost) (op.wrap n t) (op.wrap n.bare u) := by
  cases n with
  | binary child left right =>
    by_cases hwraps : op.parenthesizes child = true
    · simpa [BinaryOp.losesParentheses, BinaryOp.wrap, Node.bare, hwraps] using h.parenthesized
    · simpa [BinaryOp.losesParentheses, BinaryOp.wrap, Node.bare, hwraps] using h
  | convert operand type =>
    by_cases himplicit : operand.isImplicit type = true
    · have hbare : (Node.convert operand type).bare = operand.bare := by
        simp [Node.bare, himplicit]
      rw [hbare, op.wrap_bare operand u]
      by_cases hwraps : operand.operator?.any op.parenthesizes = true
      · simpa [BinaryOp.losesParentheses, BinaryOp.wrap, himplicit, hwraps] using h.opened
      · simpa [BinaryOp.losesParentheses, BinaryOp.wrap, himplicit, hwraps] using h
    · simpa [BinaryOp.losesParentheses, BinaryOp.wrap, Node.bare, himplicit] using h
  | _ => simpa [BinaryOp.losesParentheses, BinaryOp.wrap, Node.bare] using h

/-- A node has a text exactly when it has one without its conversions, and in the former the
parentheses are lost. -/
theorem Node.lostIn_text?_bare (n : Node) :
    Option.Rel (Text.LostIn n.losesParentheses) n.text? n.bare.text? := by
  cases n with
  | binary op left right =>
    have hleft := left.lostIn_text?_bare
    have hright := right.lostIn_text?_bare
    simp only [Node.bare, Node.text?]
    generalize left.text? = l, left.bare.text? = l' at hleft
    generalize right.text? = r, right.bare.text? = r' at hright
    cases hleft with
    | none => exact .none
    | some hleft =>
      cases hright with
      | none => exact .none
      | some hright =>
        have hkeyword := (hleft.wrap op left).append (hright.wrap op right)
          (" " ++ op.keyword ++ " ")
        apply Option.Rel.some
        simpa [Node.losesParentheses, String.append_assoc] using hkeyword
  | convert operand type =>
    by_cases himplicit : operand.isImplicit type = true
    · have hoperand := operand.lostIn_text?_bare
      simp only [Node.bare, Node.text?, Node.losesParentheses, himplicit, if_true, Bool.true_and]
      generalize operand.text? = t, operand.bare.text? = u at hoperand
      cases hoperand with
      | none => exact .none
      | some hoperand => exact .some hoperand
    · have hbare : (Node.convert operand type).bare = .convert operand type := by
        simp [Node.bare, himplicit]
      have hlost : (Node.convert operand type).losesParentheses = false := by
        simp [Node.losesParentheses, himplicit]
      rw [hbare, hlost]
      exact Text.lostIn_self _
  | _ => exact Text.lostIn_self _

/-- Implicit conversions leave no trace in a text exactly when no operand loses its parentheses. -/
theorem Node.text?_bare_eq_iff (n : Node) :
    n.bare.text?.isSome = n.text?.isSome ∧
      (n.bare.text? = n.text? ↔ n.text? = none ∨ n.losesParentheses = false) := by
  have h := n.lostIn_text?_bare
  generalize n.text? = t, n.bare.text? = u at h
  cases h with
  | none => exact ⟨rfl, by simp⟩
  | some h => exact ⟨rfl, by simpa using h.eq_iff⟩

end Losses

def Node.scaledSum : Node :=
  .binary .mul
    (.convert (.binary .add (.member (.ofMember (.declared "a" .int32)))
      (.member (.ofMember (.declared "b" .int32)))) .int64)
    (.member (.ofMember (.declared "c" .int64)))

/-- The sum stands in parentheses only if nothing widens it. -/
theorem Node.text?_scaledSum_ne_bare :
    Node.ofOperation .mul (.binary .add (.member (.ofMember (.declared "a" .int32)))
        (.member (.ofMember (.declared "b" .int32)))) (.member (.ofMember (.declared "c" .int64))) =
          .ok .scaledSum ∧
      BinaryOp.mul.parenthesizes .add = true ∧
      Node.scaledSum.text? = some "a add b mul c" ∧
      Node.scaledSum.bare.text? = some "(a add b) mul c" ∧
      Node.scaledSum.bare.text? ≠ Node.scaledSum.text? := by
  exact ⟨rfl, rfl, by decide, by decide, by decide⟩

end RowQuery
