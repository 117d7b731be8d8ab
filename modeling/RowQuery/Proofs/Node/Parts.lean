import RowQuery.Node.Text

/-!
The parts of a node: the node itself and the nodes from whose texts its text is
put together. The text of a part stands in the text of the node, and what
follows it there is the end, a space, a comma or a parenthesis.
-/

namespace RowQuery

mutual

/-- The node and the nodes inside it. The texts in a query are encoded, so a query is its only
part. -/
def Node.parts : Node → List Node
  | .binary op left right => .binary op left right :: (left.parts ++ right.parts)
  | .unary op operand => .unary op operand :: operand.parts
  | .call function args type => .call function args type :: Node.allParts args
  | .constant value type => [.constant value type]
  | .member path => [.member path]
  | .convert operand type => .convert operand type :: operand.parts
  | .sortKey ⟨operand, direction⟩ => .sortKey ⟨operand, direction⟩ :: operand.parts
  | .selectColumn column => [.selectColumn column]
  | .query q => [.query q]

def Node.allParts : List Node → List Node
  | [] => []
  | n :: rest => n.parts ++ Node.allParts rest

end

theorem Node.self_mem_parts (n : Node) : n ∈ n.parts := by
  cases n with
  | sortKey key =>
    cases key
    exact List.mem_cons_self
  | _ => exact List.mem_cons_self

/-- A text that stands in another one with no single quote behind it. -/
def Text.StandsIn (part text : String) : Prop :=
  ∃ before after, text = before ++ part ++ after ∧ after.toList.head? ≠ some '\''

namespace Text.StandsIn

variable {s t u : String}

theorem refl (s : String) : StandsIn s s :=
  ⟨"", "", by simp, by simp⟩

theorem trans (h : StandsIn s t) (h' : StandsIn t u) : StandsIn s u := by
  obtain ⟨before, after, rfl, hafter⟩ := h
  obtain ⟨before', after', rfl, hafter'⟩ := h'
  refine ⟨before' ++ before, after ++ after', by simp only [String.append_assoc], ?_⟩
  rw [String.toList_append, List.head?_append]
  cases hhead : after.toList.head? with
  | none => simpa using hafter'
  | some c => simpa [hhead] using hafter

/-- More text in front changes nothing. -/
theorem prepend (before : String) (h : StandsIn s t) : StandsIn s (before ++ t) :=
  h.trans ⟨before, "", by simp, by simp⟩

/-- A part stands in a text that goes on, unless the next character would double its last quote. -/
theorem append (after : String) (hafter : after.toList.head? ≠ some '\'') (h : StandsIn s t) :
    StandsIn s (t ++ after) :=
  h.trans ⟨"", after, by simp, hafter⟩

theorem intercalate {ts : List String} (ht : t ∈ ts) : StandsIn t (String.intercalate ", " ts) := by
  induction ts with
  | nil => cases ht
  | cons first rest ih =>
    cases rest with
    | nil =>
      rw [List.mem_singleton.mp ht]
      simpa using refl first
    | cons second rest =>
      rw [String.intercalate_cons_cons]
      rcases List.mem_cons.mp ht with rfl | hrest
      · rw [String.append_assoc]
        exact (refl t).append _ (by simp)
      · exact (ih hrest).prepend _

theorem wrap (op : BinaryOp) (n : Node) (s : String) : StandsIn s (op.wrap n s) := by
  cases n with
  | binary child l r =>
    by_cases hwraps : op.parenthesizes child = true
    · simp only [BinaryOp.wrap, hwraps, if_true]
      exact ((refl s).prepend "(").append ")" (by decide)
    · simpa [BinaryOp.wrap, hwraps] using refl s
  | _ => exact refl s

end Text.StandsIn

mutual

/-- The text of a node has the text of every part in it. -/
theorem Node.standsIn_of_mem_parts {m : Node} {t : String} (n : Node) (hm : m ∈ n.parts)
    (ht : n.text? = some t) : ∃ s, m.text? = some s ∧ Text.StandsIn s t := by
  by_cases hself : m = n
  · subst hself
    exact ⟨t, ht, .refl t⟩
  cases n with
  | binary op left right =>
    simp only [Node.parts, List.mem_cons, hself, List.mem_append, false_or] at hm
    obtain ⟨l, hl, ht⟩ := Option.bind_eq_some_iff.mp ht
    obtain ⟨r, hr, ht⟩ := Option.bind_eq_some_iff.mp ht
    cases ht
    rcases hm with hleft | hright
    · obtain ⟨s, hs, hstands⟩ := Node.standsIn_of_mem_parts left hleft hl
      refine ⟨s, hs, ?_⟩
      simp only [String.append_assoc]
      exact (hstands.trans (.wrap op left l)).append _ (by simp)
    · obtain ⟨s, hs, hstands⟩ := Node.standsIn_of_mem_parts right hright hr
      exact ⟨s, hs, (hstands.trans (.wrap op right r)).prepend _⟩
  | unary op operand =>
    simp only [Node.parts, List.mem_cons, hself, false_or] at hm
    obtain ⟨u, hu, ht⟩ := Option.bind_eq_some_iff.mp ht
    cases ht
    obtain ⟨s, hs, hstands⟩ := Node.standsIn_of_mem_parts operand hm hu
    exact ⟨s, hs, hstands.prepend _⟩
  | call function args type =>
    simp only [Node.parts, List.mem_cons, hself, false_or] at hm
    obtain ⟨ts, hts, ht⟩ := Option.bind_eq_some_iff.mp ht
    cases ht
    obtain ⟨s, hs, u, hu, hstands⟩ := Node.standsIn_of_mem_allParts args hm hts
    exact ⟨s, hs, ((hstands.trans (.intercalate hu)).prepend _).append ")" (by decide)⟩
  | convert operand type =>
    simp only [Node.parts, List.mem_cons, hself, false_or] at hm
    obtain ⟨u, hu, ht⟩ := Option.bind_eq_some_iff.mp ht
    obtain ⟨s, hs, hstands⟩ := Node.standsIn_of_mem_parts operand hm hu
    refine ⟨s, hs, ?_⟩
    by_cases himplicit : operand.isImplicit type = true
    · rw [if_pos himplicit] at ht
      cases ht
      exact hstands
    · rw [if_neg himplicit] at ht
      obtain ⟨keyword, -, ht⟩ := Option.bind_eq_some_iff.mp ht
      cases ht
      rw [String.append_assoc, String.append_assoc]
      exact (hstands.prepend _).append _ (by simp)
  | sortKey key =>
    obtain ⟨operand, direction⟩ := key
    simp only [Node.parts, List.mem_cons, hself, false_or] at hm
    rw [Node.text?, SortKey.text?] at ht
    obtain ⟨u, hu, ht⟩ := Option.bind_eq_some_iff.mp ht
    cases ht
    obtain ⟨s, hs, hstands⟩ := Node.standsIn_of_mem_parts operand hm hu
    exact ⟨s, hs, hstands.append _ (by cases direction <;> decide)⟩
  | constant value type | member path | selectColumn column | query q =>
    simp only [Node.parts, List.mem_singleton] at hm
    exact absurd hm hself

theorem Node.standsIn_of_mem_allParts {m : Node} {ts : List String} (ns : List Node)
    (hm : m ∈ Node.allParts ns) (ht : Node.texts? ns = some ts) :
    ∃ s, m.text? = some s ∧ ∃ t ∈ ts, Text.StandsIn s t := by
  cases ns with
  | nil => simp [Node.allParts] at hm
  | cons n rest =>
    rw [Node.allParts, List.mem_append] at hm
    obtain ⟨t, ht', ht⟩ := Option.bind_eq_some_iff.mp ht
    obtain ⟨us, hus, ht⟩ := Option.bind_eq_some_iff.mp ht
    cases ht
    rcases hm with hfirst | hrest
    · obtain ⟨s, hs, hstands⟩ := Node.standsIn_of_mem_parts n hfirst ht'
      exact ⟨s, hs, t, List.mem_cons_self, hstands⟩
    · obtain ⟨s, hs, u, hu, hstands⟩ := Node.standsIn_of_mem_allParts rest hrest hus
      exact ⟨s, hs, u, List.mem_cons_of_mem t hu, hstands⟩

end

end RowQuery
