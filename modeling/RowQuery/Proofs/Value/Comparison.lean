import RowQuery.Proofs.Value.IntegerArithmetic
import RowQuery.Proofs.Value.Order

/-!
Comparisons of values of any types. The sides can be turned round together with
the operator, and inequality denies equality. Where values have an order, one
and the same order decides all comparisons of them; null has none. Integers and
decimals are compared by their exact numbers.
-/

namespace RowQuery

namespace BinaryOp

variable {op : BinaryOp}

def agreesWith (op : BinaryOp) (o : Ordering) : Bool :=
  match op with
  | .eq => o == .eq
  | .ne => o != .eq
  | .gt => o == .gt
  | .ge => o != .lt
  | .lt => o == .lt
  | .le => o != .gt
  | _ => false

def isOrdering : BinaryOp → Bool
  | .gt | .ge | .lt | .le => true
  | _ => false

def turned : BinaryOp → BinaryOp
  | .gt => .lt
  | .ge => .le
  | .lt => .gt
  | .le => .ge
  | op => op

theorem isComparison_of_isOrdering (hop : op.isOrdering = true) : op.isComparison = true := by
  cases op <;> simp [isOrdering] at hop <;> rfl

theorem isOrdering_turned (hop : op.isOrdering = true) : op.turned.isOrdering = true := by
  cases op <;> simp [isOrdering] at hop <;> rfl

end BinaryOp

namespace Value

variable {op : BinaryOp} {l r l' r' v : Value} {s t : EdmType} {o : Option Ordering}

/-- Two comparisons end alike: in truth values that are related, or both in a fault of type. -/
def EndAlike (related : Bool → Bool → Prop) (x y : Except EvalError Value) : Prop :=
  (∃ p q, x = .ok (.boolean p) ∧ y = .ok (.boolean q) ∧ related p q) ∨
    ∃ f g, x = .error (.type f) ∧ y = .error (.type g)

section Widening

theorem commonType?_swap (s t : EdmType) : commonType? t s = commonType? s t := by
  cases s <;> cases t <;> rfl

theorem widenTo_cases (v : Value) (t : EdmType) :
    (∃ w, v.widenTo t = .ok w) ∨ ∃ f, v.widenTo t = .error (.type f) := by
  unfold widenTo
  cases v.convertNumeric? t with
  | some w => exact Or.inl ⟨w, rfl⟩
  | none => exact Or.inr ⟨_, rfl⟩

/-- Widening does not mind which side a value is on, save in the text of its fault. -/
theorem widen_swap (l r : Value) :
    (∃ l' r', widen l r = .ok (l', r') ∧ widen r l = .ok (r', l')) ∨
      ∃ f g, widen l r = .error (.type f) ∧ widen r l = .error (.type g) := by
  unfold widen
  cases hs : l.type? with
  | none => cases r.type? <;> exact Or.inl ⟨l, r, rfl, rfl⟩
  | some s =>
    cases ht : r.type? with
    | none => exact Or.inl ⟨l, r, rfl, rfl⟩
    | some t =>
      have hsame : (t = s || !t.isNumeric || !s.isNumeric) =
          (s = t || !s.isNumeric || !t.isNumeric) := by
        rw [Bool.or_right_comm, decide_eq_decide.mpr eq_comm]
      simp only [hsame, commonType?_swap s t]
      by_cases hkept : (s = t || !s.isNumeric || !t.isNumeric) = true
      · simp only [hkept, if_true]
        exact Or.inl ⟨l, r, rfl, rfl⟩
      simp only [hkept, Bool.false_eq_true, if_false]
      cases commonType? s t with
      | none => exact Or.inr ⟨_, _, rfl, rfl⟩
      | some u =>
        rcases widenTo_cases l u with ⟨l', hl⟩ | ⟨f, hl⟩ <;>
          rcases widenTo_cases r u with ⟨r', hr⟩ | ⟨g, hr⟩ <;> simp only [hl, hr]
        · exact Or.inl ⟨l', r', rfl, rfl⟩
        · exact Or.inr ⟨g, g, rfl, rfl⟩
        · exact Or.inr ⟨f, f, rfl, rfl⟩
        · exact Or.inr ⟨f, g, rfl, rfl⟩

end Widening

section Outcomes

def compareWidened (op : BinaryOp) (l r : Value) : Except EvalError Value :=
  if l.kindName != r.kindName then .error (mismatch op l r)
  else
    match op with
    | .eq => .ok (.boolean (l.equals r))
    | .ne => .ok (.boolean (!l.equals r))
    | _ =>
      match order? l r with
      | some o => .ok (.boolean (ordered op o))
      | none => .error (mismatch op l r)

theorem compareSides_eq (hl : l.isNull = false) (hr : r.isNull = false) :
    compareSides op l r = widen l r >>= fun sides => compareWidened op sides.1 sides.2 := by
  unfold compareSides
  rw [hl, hr]
  rfl

/-- Null is compared before any widening. -/
theorem compareSides_of_isNull (h : (l.isNull || r.isNull) = true) :
    compareSides op l r = .ok (.boolean (compareNulls op l r)) :=
  if_pos h

theorem applyBinary_comparison (hop : op.isComparison = true) :
    applyBinary op l r = compareSides op l r :=
  if_pos hop

theorem endAlike_compareWidened_ne (l r : Value) :
    EndAlike (fun p q => q = !p) (compareWidened .eq l r) (compareWidened .ne l r) := by
  unfold compareWidened
  split
  · exact Or.inr ⟨_, _, rfl, rfl⟩
  · exact Or.inl ⟨_, _, rfl, rfl, rfl⟩

theorem compareWidened_of_isOrdering (hop : op.isOrdering = true) :
    compareWidened op l r =
      if l.kindName != r.kindName then .error (mismatch op l r)
      else
        match order? l r with
        | some o => .ok (.boolean (ordered op o))
        | none => .error (mismatch op l r) := by
  cases op <;> simp [BinaryOp.isOrdering] at hop <;> rfl

theorem ordered_turned (hop : op.isOrdering = true) (o : Option Ordering) :
    ordered op.turned (o.map Ordering.swap) = ordered op o := by
  cases op <;> simp [BinaryOp.isOrdering] at hop <;> rcases o with _ | _ | _ | _ <;> rfl

theorem endAlike_compareWidened_turned (hop : op.isOrdering = true) (l r : Value) :
    EndAlike (fun p q => q = p) (compareWidened op l r) (compareWidened op.turned r l) := by
  have hturned := BinaryOp.isOrdering_turned hop
  rw [compareWidened_of_isOrdering hop, compareWidened_of_isOrdering hturned, order?_swap l r,
    bne_comm]
  split
  · exact Or.inr ⟨_, _, rfl, rfl⟩
  · cases order? l r with
    | none => exact Or.inr ⟨_, _, rfl, rfl⟩
    | some o => exact Or.inl ⟨_, _, rfl, rfl, ordered_turned hop o⟩

theorem kindName_eq_of_order? (h : order? l r = some o) : l.kindName = r.kindName := by
  unfold order? at h
  split at h <;> cases h <;> rfl

/-- One order decides all comparisons. -/
theorem compareWidened_of_order? {x : Ordering} (hop : op.isComparison = true)
    (h : order? l r = some (some x)) :
    compareWidened op l r = .ok (.boolean (op.agreesWith x)) := by
  have hkind := kindName_eq_of_order? h
  have hequal := (ordered_of_order? h).equal x rfl
  unfold compareWidened
  cases op <;> simp [BinaryOp.isComparison, BinaryOp.rank] at hop <;>
    simp [hkind, hequal, h, ordered, BinaryOp.agreesWith, bne]

end Outcomes

section Sides

/-- The one of equality and inequality holds where the other does not, and both fail alike. -/
theorem endAlike_eq_ne (l r : Value) :
    EndAlike (fun p q => q = !p) (applyBinary .eq l r) (applyBinary .ne l r) := by
  rw [applyBinary_comparison rfl, applyBinary_comparison rfl]
  by_cases hnull : (l.isNull || r.isNull) = true
  · rw [compareSides_of_isNull hnull, compareSides_of_isNull hnull]
    exact Or.inl ⟨_, _, rfl, rfl, rfl⟩
  · obtain ⟨hl, hr⟩ : l.isNull = false ∧ r.isNull = false := by simpa using hnull
    rw [compareSides_eq hl hr, compareSides_eq hl hr]
    rcases widen_swap l r with ⟨l', r', hwiden, -⟩ | ⟨f, -, hwiden, -⟩ <;> rw [hwiden]
    · exact endAlike_compareWidened_ne l' r'
    · exact Or.inr ⟨f, f, rfl, rfl⟩

theorem compareNulls_of_isOrdering (hop : op.isOrdering = true) (l r : Value) :
    compareNulls op l r = false := by
  cases op <;> simp [BinaryOp.isOrdering] at hop <;> rfl

/-- Nothing is ordered before or after null. -/
theorem applyBinary_of_isNull (hop : op.isOrdering = true) (h : (l.isNull || r.isNull) = true) :
    applyBinary op l r = .ok (.boolean false) := by
  rw [applyBinary_comparison (BinaryOp.isComparison_of_isOrdering hop), compareSides_of_isNull h,
    compareNulls_of_isOrdering hop]

/-- Swapping the sides and turning the operator around gives the same answer, or fails alike. -/
theorem endAlike_turned (hop : op.isOrdering = true) (l r : Value) :
    EndAlike (fun p q => q = p) (applyBinary op l r) (applyBinary op.turned r l) := by
  have hturned := BinaryOp.isOrdering_turned hop
  by_cases hnull : (l.isNull || r.isNull) = true
  · rw [applyBinary_of_isNull hop hnull, applyBinary_of_isNull hturned (by rwa [Bool.or_comm])]
    exact Or.inl ⟨_, _, rfl, rfl, rfl⟩
  · obtain ⟨hl, hr⟩ : l.isNull = false ∧ r.isNull = false := by simpa using hnull
    rw [applyBinary_comparison (BinaryOp.isComparison_of_isOrdering hop),
      applyBinary_comparison (BinaryOp.isComparison_of_isOrdering hturned), compareSides_eq hl hr,
      compareSides_eq hr hl]
    rcases widen_swap l r with ⟨l', r', hwiden, hback⟩ | ⟨f, g, hwiden, hback⟩ <;>
      rw [hwiden, hback]
    · exact endAlike_compareWidened_turned hop l' r'
    · exact Or.inr ⟨f, g, rfl, rfl⟩

end Sides

section Exactness

variable {p q : ℚ} {m n : Int}

def exactNumber? : Value → Option ℚ
  | .decimal d => some d.number
  | v => v.integer?.map Int.cast

theorem exactNumber?_cases (h : v.exactNumber? = some p) :
    (∃ s n, v.IsInteger s n ∧ p = n) ∨ ∃ d, v = .decimal d ∧ p = d.number := by
  cases v with
  | byte | int16 | int32 | int64 =>
    cases h
    exact Or.inl ⟨_, _, ⟨rfl, rfl⟩, rfl⟩
  | decimal d =>
    cases h
    exact Or.inr ⟨d, rfl, rfl⟩
  | _ => cases h

/-- Integers of one type are in the order of their numbers. -/
theorem order?_of_isInteger (hl : l.IsInteger t m) (hr : r.IsInteger t n) :
    order? l r = some (some (compare m n)) := by
  obtain ⟨hlt, hm⟩ := hl
  obtain ⟨hrt, hn⟩ := hr
  cases l <;> simp [integer?] at hm <;> cases hlt <;> cases r <;> cases hrt <;> cases hn <;>
    subst hm <;> simp only [order?, compare, compareOfLessAndEq]
  · simp only [UInt8.lt_iff_toNat_lt, ← UInt8.toNat_inj, Int.ofNat_lt, Int.natCast_inj]
  · simp only [Int16.lt_iff_toInt_lt, ← Int16.toInt_inj]
  · simp only [Int32.lt_iff_toInt_lt, ← Int32.toInt_inj]
  · simp only [Int64.lt_iff_toInt_lt, ← Int64.toInt_inj]

/-- Decimals are ordered by their numbers, whatever their scales. -/
theorem order?_decimal (a b : Decimal) :
    order? (decimal a) (decimal b) = some (some (compare a.number b.number)) := by
  rw [← a.compareWith_eq_compare]
  rfl

theorem IsInteger.convertNumeric?_decimal (h : v.IsInteger t n) :
    v.convertNumeric? .decimal = some (.decimal (.ofInt n)) ∧ t.widensTo .decimal = true ∧
      t ≠ .decimal := by
  refine ⟨convertNumeric?_of_integer? h.number_eq, ?_⟩
  have hinteger := h.isSome_integerBounds?
  cases t <;> simp [EdmType.integerBounds?] at hinteger <;> decide

/-- Integers and decimals meet without loss. -/
theorem widen_exact (hp : l.exactNumber? = some p) (hq : r.exactNumber? = some q) :
    ∃ l' r', widen l r = .ok (l', r') ∧ order? l' r' = some (some (compare p q)) := by
  rcases exactNumber?_cases hp with ⟨s, m, hl, rfl⟩ | ⟨a, rfl, rfl⟩ <;>
    rcases exactNumber?_cases hq with ⟨t, n, hr, rfl⟩ | ⟨b, rfl, rfl⟩
  · obtain ⟨l', r', hwiden, hl', hr'⟩ := widen_integers hl hr
    have hcast : compare (m : ℚ) n = compare m n :=
      (compare_of_scaled one_pos (mul_one _).symm (mul_one _).symm).symm
    rw [hcast]
    exact ⟨l', r', hwiden, order?_of_isInteger hl' hr'⟩
  · obtain ⟨hconvert, hwidens, hne⟩ := hl.convertNumeric?_decimal
    refine ⟨_, _, widen_left hl.type_eq rfl hwidens hne hconvert, ?_⟩
    rw [← Decimal.number_ofInt m]
    exact order?_decimal _ b
  · obtain ⟨hconvert, hwidens, hne⟩ := hr.convertNumeric?_decimal
    refine ⟨_, _, widen_right rfl hr.type_eq hwidens hne hconvert, ?_⟩
    rw [← Decimal.number_ofInt n]
    exact order?_decimal a _
  · exact ⟨_, _, widen_same rfl rfl, order?_decimal a b⟩

theorem isNull_of_exactNumber? (h : v.exactNumber? = some p) : v.isNull = false := by
  cases v with
  | null => cases h
  | _ => rfl

/-- Where widening leads to values in an order, this order decides all comparisons. -/
theorem applyBinary_of_order? {x : Ordering} (hop : op.isComparison = true)
    (hl : l.isNull = false) (hr : r.isNull = false) (hwiden : widen l r = .ok (l', r'))
    (horder : order? l' r' = some (some x)) :
    applyBinary op l r = .ok (.boolean (op.agreesWith x)) := by
  rw [applyBinary_comparison hop, compareSides_eq hl hr, hwiden]
  exact compareWidened_of_order? hop horder

/-- Integers and decimals are compared as the numbers that they are. -/
theorem applyBinary_exact (hop : op.isComparison = true) (hp : l.exactNumber? = some p)
    (hq : r.exactNumber? = some q) :
    applyBinary op l r = .ok (.boolean (op.agreesWith (compare p q))) := by
  obtain ⟨l', r', hwiden, horder⟩ := widen_exact hp hq
  exact applyBinary_of_order? hop (isNull_of_exactNumber? hp) (isNull_of_exactNumber? hq) hwiden
    horder

end Exactness

section Laws

/-- Whether widening the values for a comparison leads to one that is no number. -/
def WidenToNaN (l r : Value) : Prop :=
  ∃ l' r', widen l r = .ok (l', r') ∧ (l'.isNaN = true ∨ r'.isNaN = true)

/-- A comparison by order that gives a value has found an order, if no side is no number. -/
theorem exists_order?_of_isOrdering (hop : op.isOrdering = true) (hl : l.isNull = false)
    (hr : r.isNull = false) (hnumbers : ¬ WidenToNaN l r) (h : applyBinary op l r = .ok v) :
    ∃ l' r' x, widen l r = .ok (l', r') ∧ order? l' r' = some (some x) := by
  rw [applyBinary_comparison (BinaryOp.isComparison_of_isOrdering hop), compareSides_eq hl hr] at h
  obtain ⟨⟨l', r'⟩, hwiden, h⟩ := bind_eq_ok_iff.mp h
  rw [compareWidened_of_isOrdering hop] at h
  split at h
  · cases h
  · split at h
    · rename_i o horder
      cases o with
      | some x => exact ⟨l', r', x, hwiden, horder⟩
      | none =>
        have hnan := (ordered_of_order? horder).noNumber rfl
        exact absurd ⟨l', r', hwiden, hnan⟩ hnumbers
    · cases h

theorem applyBinary_exact_trans {p q u : ℚ} {w : Value} (hop : op = .lt ∨ op = .eq)
    (hp : l.exactNumber? = some p) (hq : r.exactNumber? = some q) (hu : w.exactNumber? = some u)
    (hleft : applyBinary op l r = .ok (.boolean true))
    (hright : applyBinary op r w = .ok (.boolean true)) :
    applyBinary op l w = .ok (.boolean true) := by
  have hcomparison : op.isComparison = true := by
    rcases hop with rfl | rfl <;> rfl
  rw [applyBinary_exact hcomparison hp hq, Except.ok.injEq, boolean.injEq] at hleft
  rw [applyBinary_exact hcomparison hq hu, Except.ok.injEq, boolean.injEq] at hright
  rw [applyBinary_exact hcomparison hp hu, Except.ok.injEq, boolean.injEq]
  rcases hop with rfl | rfl
  · simp only [BinaryOp.agreesWith, beq_iff_eq, compare_lt_iff_lt] at hleft hright ⊢
    exact hleft.trans hright
  · simp only [BinaryOp.agreesWith, beq_iff_eq, compare_eq_iff_eq] at hleft hright ⊢
    exact hleft.trans hright

/-- Inequality denies equality and the sides can be turned round. One order decides all comparisons
of two values that have one and are numbers if they are floating; no order holds of null. Integers
and decimals are compared as their numbers are, so that less and equal can be chained. -/
theorem comparison_laws (l r : Value) :
    EndAlike (fun p q => q = !p) (applyBinary .eq l r) (applyBinary .ne l r) ∧
      EndAlike (fun p q => q = p) (applyBinary .gt l r) (applyBinary .lt r l) ∧
      EndAlike (fun p q => q = p) (applyBinary .ge l r) (applyBinary .le r l) ∧
      (l.isNull = false → r.isNull = false → ¬ WidenToNaN l r →
        ∀ order v, order.isOrdering = true → applyBinary order l r = .ok v →
          ∃ x, ∀ op, op.isComparison = true →
            applyBinary op l r = .ok (.boolean (op.agreesWith x))) ∧
      ((l.isNull || r.isNull) = true →
        ∀ op, op.isOrdering = true → applyBinary op l r = .ok (.boolean false)) ∧
      ∀ p q, l.exactNumber? = some p → r.exactNumber? = some q →
        (∀ op, op.isComparison = true →
          applyBinary op l r = .ok (.boolean (op.agreesWith (compare p q)))) ∧
        ∀ w u op, w.exactNumber? = some u → op = .lt ∨ op = .eq →
          applyBinary op l r = .ok (.boolean true) → applyBinary op r w = .ok (.boolean true) →
            applyBinary op l w = .ok (.boolean true) := by
  refine ⟨endAlike_eq_ne l r, endAlike_turned rfl l r, endAlike_turned rfl l r, ?_,
    fun hnull op hop => applyBinary_of_isNull hop hnull, ?_⟩
  · intro hl hr hnumbers order v horder hv
    obtain ⟨l', r', x, hwiden, hx⟩ := exists_order?_of_isOrdering horder hl hr hnumbers hv
    exact ⟨x, fun op hop => applyBinary_of_order? hop hl hr hwiden hx⟩
  · intro p q hp hq
    exact ⟨fun op hop => applyBinary_exact hop hp hq,
      fun w u op hu hop => applyBinary_exact_trans hop hp hq hu⟩

/-- Two and a half is less than three, and three is less than four. -/
theorem comparison_laws_weights :
    (∃ x, ∀ op, op.isComparison = true →
        applyBinary op (.decimal ⟨false, 25, 1⟩) (.byte 3) = .ok (.boolean (op.agreesWith x))) ∧
      applyBinary .ge .null (.byte 3) = .ok (.boolean false) ∧
      applyBinary .lt (.decimal ⟨false, 25, 1⟩) (.int64 4) = .ok (.boolean true) := by
  obtain ⟨-, -, -, hdecided, -, hexact⟩ := comparison_laws (.decimal ⟨false, 25, 1⟩) (.byte 3)
  have hnumbers : ¬ WidenToNaN (.decimal ⟨false, 25, 1⟩) (.byte 3) := by
    rintro ⟨l', r', hwiden, hnan⟩
    cases hwiden
    simp [isNaN] at hnan
  refine ⟨hdecided rfl rfl hnumbers .lt _ rfl rfl, ?_, ?_⟩
  · exact (comparison_laws .null (.byte 3)).2.2.2.2.1 rfl .ge rfl
  · exact (hexact _ _ rfl rfl).2 (.int64 4) _ .lt rfl (Or.inl rfl) rfl rfl

end Laws

end Value

end RowQuery
