import RowQuery.Proofs.Node.Nesting
import RowQuery.Proofs.Query.Obtainable

/-!
Lists of sort keys and of columns in query strings. They are joined with bare
commas, and the commas inside a sort key all stand in quotes or parentheses. So
the list can be cut into the texts that it was joined from.
-/

namespace RowQuery

theorem SortKey.texts?_eq_some_iff {ks : List SortKey} {ts : List String} :
    SortKey.texts? ks = some ts ↔ ks.map SortKey.text? = ts.map some := by
  induction ks generalizing ts with
  | nil => cases ts <;> simp [SortKey.texts?]
  | cons k ks ih =>
    rw [SortKey.texts?, List.map_cons]
    cases ts with
    | nil => cases k.text? <;> cases SortKey.texts? ks <;> simp
    | cons t ts =>
      rw [List.map_cons, List.cons.injEq, ← ih]
      cases k.text? <;> cases SortKey.texts? ks <;> simp

namespace Query

def listedNames (q : Query) : List String :=
  q.orderBy.flatMap (fun k => k.operand.names) ++ q.select.flatMap SelectColumn.names

/-- The option under a name lists texts: it is there if there are any, its quotes and parentheses
are closed, and its commas outside of them stand between the texts. -/
structure Lists (params : List (String × String)) (name : String) (texts : List String) : Prop where
  present : (∃ value, (name, value) ∈ params) ↔ texts ≠ []
  balanced : ∀ value, (name, value) ∈ params → Text.IsBalanced value
  cut : ∀ value, (name, value) ∈ params → Text.cutItems value = texts

section Options

variable {name value : String} {texts : List String} {params : List (String × String)}

theorem mem_param_iff {p : String × String} {text : Option String} :
    p ∈ param name text ↔ p.1 = name ∧ text = some p.2 := by
  obtain ⟨n, v⟩ := p
  cases text <;> simp [param, eq_comm]

theorem mem_listParam_iff {p : String × String} :
    p ∈ listParam name texts ↔
      p.1 = name ∧ texts ≠ [] ∧ p.2 = String.intercalate "," texts := by
  obtain ⟨n, v⟩ := p
  rw [listParam]
  split <;> simp_all

/-- A list parameter is there exactly if it has texts, and joins them by commas, which no text has
outside parentheses and quotes. -/
theorem lists_of_mem_iff (hmem : ∀ value, (name, value) ∈ params ↔
      texts ≠ [] ∧ value = String.intercalate "," texts)
    (htexts : ∀ t ∈ texts, Text.Nested false t.toList) : Lists params name texts where
  present := by simp [hmem]
  balanced := by
    intro value hvalue
    obtain ⟨hne, rfl⟩ := (hmem value).mp hvalue
    exact (Text.isBalanced_and_cutItems_intercalate hne htexts).1
  cut := by
    intro value hvalue
    obtain ⟨hne, rfl⟩ := (hmem value).mp hvalue
    exact (Text.isBalanced_and_cutItems_intercalate hne htexts).2

theorem mem_paramsWith_orderBy_iff (q : Query) (filter : Option String) (orderBy : List String) :
    ("$orderby", value) ∈ q.paramsWith filter orderBy ↔
      orderBy ≠ [] ∧ value = String.intercalate "," orderBy := by
  simp [paramsWith, mem_param_iff, mem_listParam_iff]

theorem mem_paramsWith_select_iff (q : Query) (filter : Option String) (orderBy : List String) :
    ("$select", value) ∈ q.paramsWith filter orderBy ↔
      q.select.map SelectColumn.text ≠ [] ∧
        value = String.intercalate "," (q.select.map SelectColumn.text) := by
  simp [paramsWith, mem_param_iff, mem_listParam_iff]

end Options

/-- The values for the order and for the selection can be cut into the texts of the sort keys and of
the columns, whatever strings there are in the sort keys. -/
theorem lists_params? {q : Query} (hq : q.Obtainable)
    (hqueries : ∀ k ∈ q.orderBy, ∀ r, .query r ∉ k.operand.parts)
    (hnames : ∀ name ∈ q.listedNames, Text.IsUnmarked name.toList) :
    ∃ params orderBy, q.params? = some params ∧
      q.orderBy.map SortKey.text? = orderBy.map some ∧
      Lists params "$orderby" orderBy ∧
      Lists params "$select" (q.select.map SelectColumn.text) := by
  obtain ⟨params, hparams⟩ := hq.exists_params?
  obtain ⟨filter, orderBy, horderBy, rfl⟩ := exists_of_params?_eq_some hparams
  rw [SortKey.texts?_eq_some_iff] at horderBy
  refine ⟨_, orderBy, hparams, horderBy,
    lists_of_mem_iff (fun _ => mem_paramsWith_orderBy_iff q filter orderBy) ?_,
    lists_of_mem_iff (fun _ => mem_paramsWith_select_iff q filter orderBy) ?_⟩
  · intro t ht
    have hmem : some t ∈ q.orderBy.map SortKey.text? := by
      rw [horderBy]
      exact List.mem_map_of_mem ht
    obtain ⟨k, hk, htext⟩ := List.mem_map.mp hmem
    refine SortKey.nested_text (fun m hm => ?_) htext
    refine Node.isPlain_of_mem_parts (hqueries k hk) (fun name hname => hnames name ?_) hm
    exact List.mem_append_left _ (List.mem_flatMap.mpr ⟨k, hk, hname⟩)
  · intro t ht
    obtain ⟨c, hc, rfl⟩ := List.mem_map.mp ht
    refine c.nested_text fun name hname => hnames name ?_
    exact List.mem_append_right _ (List.mem_flatMap.mpr ⟨c, hc, hname⟩)

end Query

def SortKey.nameWithTail : SortKey :=
  ⟨.call .concat [.member (.ofMember (.declared "Name" .string)),
    .constant (.string "'), Age desc (") .string] .string, .descending⟩

def Query.byNameWithTailUpdate : Query.Update where
  orderBy := .set [.nameWithTail, .nameDown]
  select := .set [.ofPath (.ofMember (.declared "Name" .string)), .wildcard]

def Query.byNameWithTail : Query :=
  ⟨none, [.nameWithTail, .nameDown], none, 0, none, .none,
    [.ofPath (.ofMember (.declared "Name" .string)), .wildcard]⟩

namespace Query

theorem lists_params?_byNameWithTail :
    byNameWithTail.Obtainable ∧
      (∀ k ∈ byNameWithTail.orderBy, ∀ r, .query r ∉ k.operand.parts) ∧
      (∀ name ∈ byNameWithTail.listedNames, Text.IsUnmarked name.toList) ∧
      byNameWithTail.params? = some [
        ("$orderby", "concat(Name, '''), Age desc (') desc,Name desc"), ("$select", "Name,*")] ∧
      ∃ params orderBy, byNameWithTail.params? = some params ∧
        byNameWithTail.orderBy.map SortKey.text? = orderBy.map some ∧
        Lists params "$orderby" orderBy ∧
        Lists params "$select" (byNameWithTail.select.map SelectColumn.text) := by
  have hcall : SortKey.nameWithTail.Obtainable := by
    refine .make .descending (.call .concat .string ?_)
    rw [List.forall_mem_cons, List.forall_mem_singleton]
    exact ⟨.member _, .value (.string "'), Age desc (") rfl⟩
  have hquery : byNameWithTail.Obtainable := by
    refine .update byNameWithTailUpdate .empty ?_ ?_ ?_ rfl
    · intro n hn
      cases hn
    · intro ks hks
      cases hks
      rw [List.forall_mem_cons, List.forall_mem_singleton]
      exact ⟨hcall, .make .descending (.member _)⟩
    · intro cs hcs
      cases hcs
      rw [List.forall_mem_cons, List.forall_mem_singleton]
      exact ⟨.ofPath _, .wildcard⟩
  have hqueries : ∀ k ∈ byNameWithTail.orderBy, ∀ r, .query r ∉ k.operand.parts := by
    simp [byNameWithTail, SortKey.nameWithTail, SortKey.nameDown, Node.parts, Node.allParts]
  have hnames : ∀ name ∈ byNameWithTail.listedNames, Text.IsUnmarked name.toList := by
    decide +kernel
  exact ⟨hquery, hqueries, hnames, by decide +kernel, lists_params? hquery hqueries hnames⟩

end Query

end RowQuery
