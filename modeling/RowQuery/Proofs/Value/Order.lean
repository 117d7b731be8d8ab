import RowQuery.Proofs.Value.Number
import RowQuery.Value.Operation

/-!
The orders of values of one type. Turning two values round turns their order
round, and in every order the equal values are those that equality takes for
equal. Values without a place in their order are no numbers. Decimals of any
scale are ordered as their fractions are.
-/

namespace RowQuery

theorem beq_eq_compare_beq {α : Type} [Ord α] [BEq α] [LawfulBEq α] [Std.LawfulEqOrd α]
    (a b : α) : (a == b) = (compare a b == .eq) := by
  rw [Bool.eq_iff_iff, beq_iff_eq, beq_iff_eq, Std.LawfulEqCmp.compare_eq_iff_eq]

/-- What is compared by a strict total order is equal where equality says so. -/
theorem beq_eq_compareOfLessAndEq_beq {α : Type} [LT α] [DecidableLT α] [DecidableEq α] [BEq α]
    [LawfulBEq α] (hlt : ∀ x y : α, x < y ↔ ¬ y < x ∧ x ≠ y) (a b : α) :
    (a == b) = (compareOfLessAndEq a b == .eq) := by
  unfold compareOfLessAndEq
  by_cases hab : a = b
  · have hnot : ¬ a < b := fun h => ((hlt a b).mp h).2 hab
    simp [hab, hab ▸ hnot]
  · rw [if_neg hab, beq_false_of_ne hab]
    split <;> rfl

theorem list_lt_iff {α : Type} [LT α] [Std.Asymm fun a b : α => a < b]
    [Std.Trichotomous fun a b : α => a < b] (as bs : List α) :
    as < bs ↔ ¬ bs < as ∧ as ≠ bs := by
  constructor
  · intro h
    refine ⟨List.lt_asymm h, ?_⟩
    rintro rfl
    exact List.lt_irrefl as h
  · rintro ⟨hback, hne⟩
    by_contra hnot
    exact hne (List.le_antisymm (List.not_lt.mp hback) (List.not_lt.mp hnot))

theorem string_lt_iff (a b : String) : a < b ↔ ¬ b < a ∧ a ≠ b := by
  constructor
  · intro h
    refine ⟨String.lt_asymm h, ?_⟩
    rintro rfl
    exact String.lt_irrefl a h
  · rintro ⟨hback, hne⟩
    by_contra hnot
    exact hne (String.le_antisymm (String.not_lt.mp hback) (String.not_lt.mp hnot))

/-- Scaling by a positive factor keeps the order. -/
theorem compare_of_scaled {m n : ℤ} {p q c : ℚ} (hc : 0 < c) (hm : (m : ℚ) = p * c)
    (hn : (n : ℚ) = q * c) : compare m n = compare p q := by
  have hiff : ∀ {i j : ℤ} {x y : ℚ}, (i : ℚ) = x * c → (j : ℚ) = y * c → (i < j ↔ x < y) := by
    intro i j x y hi hj
    rw [← Int.cast_lt (R := ℚ), hi, hj, mul_lt_mul_iff_left₀ hc]
  rcases lt_trichotomy p q with h | h | h
  · rw [compare_lt_iff_lt.mpr h, compare_lt_iff_lt.mpr ((hiff hm hn).mpr h)]
  · have hmn : m = n := by
      rw [← h, ← hm] at hn
      exact_mod_cast hn.symm
    rw [compare_eq_iff_eq.mpr h, compare_eq_iff_eq.mpr hmn]
  · rw [compare_gt_iff_gt.mpr h, compare_gt_iff_gt.mpr ((hiff hn hm).mpr h)]

namespace Moment

variable (a b : Moment)

theorem fields_injective {a b : Moment} (h : a.fields = b.fields) : a = b := by
  cases a
  cases b
  simpa [fields] using h

theorem compareWith_eq : a.compareWith b = compareOfLessAndEq a.fields b.fields := by
  unfold compareWith compareOfLessAndEq
  by_cases hlt : a.fields < b.fields
  · rw [if_pos hlt, if_pos hlt]
  · rw [if_neg hlt, if_neg hlt]
    by_cases heq : a.fields = b.fields
    · rw [if_pos heq, if_neg (heq ▸ hlt)]
    · have hgt : b.fields < a.fields := (list_lt_iff _ _).mpr ⟨hlt, Ne.symm heq⟩
      rw [if_neg heq, if_pos hgt]

theorem compareWith_swap : a.compareWith b = (b.compareWith a).swap := by
  rw [compareWith_eq, compareWith_eq]
  exact compareOfLessAndEq_eq_swap_of_lt_iff_not_gt_and_ne list_lt_iff

theorem beq_eq_compareWith_beq : (a == b) = (a.compareWith b == .eq) := by
  rw [compareWith_eq, ← beq_eq_compareOfLessAndEq_beq list_lt_iff, Bool.eq_iff_iff, beq_iff_eq,
    beq_iff_eq]
  exact ⟨congrArg fields, fields_injective⟩

end Moment

namespace Decimal

variable (a b : Decimal)

theorem compareWith_swap : a.compareWith b = (b.compareWith a).swap := by
  unfold compareWith commonScale
  rw [Nat.max_comm b.scale]
  exact Std.OrientedCmp.eq_swap

theorem signedUnitsAt_eq {scale : ℕ} (h : a.scale ≤ scale) :
    (signedUnitsAt scale a : ℚ) = a.number * (10 ^ scale : ℕ) := by
  have hpower : 10 ^ scale = 10 ^ (scale - a.scale) * 10 ^ a.scale := by
    rw [← Nat.pow_add, Nat.sub_add_cancel h]
  have hne : ((10 ^ a.scale : ℕ) : ℚ) ≠ 0 := by simp
  have hunits : (signedUnitsAt scale a : ℚ) =
      Floating.signed a.negative a.coefficient * (10 ^ (scale - a.scale) : ℕ) := by
    unfold signedUnitsAt unitsAt Floating.signed
    cases a.negative <;> simp
  rw [hunits, number, hpower, Nat.cast_mul]
  field_simp

/-- The order of decimals is that of their fractions. -/
theorem compareWith_eq_compare : a.compareWith b = compare a.number b.number := by
  have hpower : (0 : ℚ) < (10 ^ commonScale a b : ℕ) := by simp
  exact compare_of_scaled hpower (a.signedUnitsAt_eq (Nat.le_max_left _ _))
    (b.signedUnitsAt_eq (Nat.le_max_right _ _))

theorem number_ofInt (n : ℤ) : (ofInt n).number = n := by
  have hsigned : Floating.signed (n < 0) n.natAbs = n := by
    unfold Floating.signed
    by_cases hn : n < 0
    · rw [if_pos (by simpa using hn)]
      omega
    · rw [if_neg (by simpa using hn)]
      omega
  simp only [number, ofInt, hsigned, pow_zero, Nat.cast_one, div_one]

end Decimal

namespace Floating

variable {f : Format} (x y : Floating f)

theorem compare?_swap : x.compare? y = (y.compare? x).map Ordering.swap := by
  unfold compare?
  rw [Bool.or_comm y.isNaN]
  split
  · rfl
  · exact congrArg some Std.OrientedCmp.eq_swap

/-- Only what is not a number cannot be ordered. -/
theorem compare?_eq_none_iff : x.compare? y = none ↔ x.isNaN = true ∨ y.isNaN = true := by
  unfold compare?
  split <;> simp_all

theorem equals_of_compare? {o : Ordering} (h : x.compare? y = some o) :
    x.equals y = (o == .eq) := by
  unfold equals
  rw [h]
  rfl

end Floating

namespace Guid

theorem beq_eq_compare_beq (a b : Guid) :
    (a == b) = (compare a.bits.toNat b.bits.toNat == .eq) := by
  rw [← RowQuery.beq_eq_compare_beq, Bool.eq_iff_iff, beq_iff_eq, beq_iff_eq, BitVec.toNat_inj]
  cases a
  cases b
  simp

end Guid

namespace Value

variable {l r : Value} {o : Option Ordering}

def isNaN : Value → Bool
  | .single x => x.isNaN
  | .double x => x.isNaN
  | _ => false

/-- What the order of two values of one type says about them. -/
structure Ordered (l r : Value) (o : Option Ordering) : Prop where
  swapped : order? r l = some (o.map Ordering.swap)
  equal : ∀ x, o = some x → l.equals r = (x == .eq)
  noNumber : o = none → l.isNaN = true ∨ r.isNaN = true

theorem ordered_of_compare {x y : Ordering} (hback : order? r l = some (some y))
    (hswap : y = x.swap) (hequal : l.equals r = (x == .eq)) : Ordered l r (some x) where
  swapped := by rw [hback, hswap, Option.map_some]
  equal := by
    rintro x' h
    cases h
    exact hequal
  noNumber := by simp

theorem ordered_of_floating {f : Format} {x y : Floating f} (hl : l.isNaN = x.isNaN)
    (hr : r.isNaN = y.isNaN) (hback : order? r l = some (y.compare? x))
    (hequals : l.equals r = x.equals y) : Ordered l r (x.compare? y) where
  swapped := by rw [hback, Floating.compare?_swap]
  equal := by
    intro o ho
    rw [hequals, Floating.equals_of_compare? x y ho]
  noNumber := by
    intro hnone
    rw [hl, hr]
    exact (Floating.compare?_eq_none_iff x y).mp hnone

theorem ordered_of_ord {α : Type} [Ord α] [BEq α] [LawfulBEq α] [Std.OrientedOrd α]
    [Std.LawfulEqOrd α] {a b : α} (hback : order? r l = some (some (compare b a)))
    (hequals : l.equals r = (a == b)) : Ordered l r (some (compare a b)) :=
  ordered_of_compare hback Std.OrientedCmp.eq_swap (hequals.trans (beq_eq_compare_beq a b))

/-- Every order of values of one type is one that can be turned round and agrees with equality. -/
theorem ordered_of_order? (h : order? l r = some o) : Ordered l r o := by
  unfold order? at h
  split at h <;> cases h
  case h_1 | h_2 | h_3 | h_4 | h_5 => exact ordered_of_ord rfl (by rw [equals])
  case h_6 | h_7 => exact ordered_of_floating rfl rfl rfl (by rw [equals])
  case h_8 a b => exact ordered_of_compare rfl (b.compareWith_swap a) (by rw [equals])
  case h_9 a b =>
    exact ordered_of_compare rfl (b.compareWith_swap a)
      (by rw [equals]; exact a.beq_eq_compareWith_beq b)
  case h_10 a b =>
    exact ordered_of_compare rfl Std.OrientedCmp.eq_swap
      (by rw [equals]; exact a.beq_eq_compare_beq b)
  case h_11 a b =>
    exact ordered_of_compare rfl
      (compareOfLessAndEq_eq_swap_of_lt_iff_not_gt_and_ne string_lt_iff)
      (by rw [equals]; exact beq_eq_compareOfLessAndEq_beq string_lt_iff a b)
  case h_12 a b =>
    exact ordered_of_compare rfl
      (compareOfLessAndEq_eq_swap_of_lt_iff_not_gt_and_ne list_lt_iff)
      (by rw [equals]; exact beq_eq_compareOfLessAndEq_beq list_lt_iff a b)

/-- The order of two values, swapped, is that of the values swapped. -/
theorem order?_swap (l r : Value) : order? r l = (order? l r).map (Option.map Ordering.swap) := by
  cases h : order? l r with
  | some o => exact (ordered_of_order? h).swapped
  | none =>
    cases hback : order? r l with
    | none => rfl
    | some o =>
      rw [(ordered_of_order? hback).swapped] at h
      cases h

end Value

end RowQuery
