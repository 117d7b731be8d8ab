import RowQuery.Proofs.Command.Building

/-!
Everything that can be made. Nodes, sort keys and queries come about by the
functions that make them from others, from expressions, and by the query
command. All of them have texts, so the checks of these functions leave no way
to a constant outside its type or to a cast without a keyword.
-/

namespace RowQuery

inductive SelectColumn.Obtainable : SelectColumn → Prop
  | make {c : SelectColumn} (path : Option MemberPath) (allColumns : Bool)
    (h : SelectColumn.make path allColumns = .ok c) : Obtainable c
  | ofPath (p : MemberPath) : Obtainable (.ofPath p)
  | wildcard : Obtainable .wildcard
  | ofExpr {c : SelectColumn} (e : Expr) (h : e.toSelectColumn = .ok c) : Obtainable c

mutual

/-- The nodes that can be made. -/
inductive Node.Obtainable : Node → Prop
  | binary {l r n : Node} (op : BinaryOp) (hl : l.Obtainable) (hr : r.Obtainable)
    (h : Node.makeBinary l op r = .ok n) : Node.Obtainable n
  | unary {n : Node} (op : UnaryOp) (hn : n.Obtainable) : Node.Obtainable (.unary op n)
  | call {args : List Node} (f : QueryFunction) (type : EdmType)
    (hargs : ∀ a ∈ args, a.Obtainable) : Node.Obtainable (.call f args type)
  | constant {n : Node} (v : Value) (type : EdmType) (h : Node.makeConstant v type = .ok n) :
    Node.Obtainable n
  | value {n : Node} (v : Value) (h : Node.ofValue v = .ok n) : Node.Obtainable n
  | member (path : MemberPath) : Node.Obtainable (.member path)
  | convert {m n : Node} (type : EdmType) (hm : m.Obtainable)
    (h : Node.makeConvert m type = .ok n) : Node.Obtainable n
  | sortKey {k : SortKey} (hk : k.Obtainable) : Node.Obtainable (.sortKey k)
  | selectColumn {c : SelectColumn} (hc : c.Obtainable) : Node.Obtainable (.selectColumn c)
  | query {q : Query} (hq : q.Obtainable) : Node.Obtainable (.query q)
  | ofExpr {n : Node} (e : Expr) (h : e.toNode = .ok n) : Node.Obtainable n

inductive SortKey.Obtainable : SortKey → Prop
  | make {n : Node} (direction : Direction) (hn : n.Obtainable) :
    SortKey.Obtainable ⟨n, direction⟩
  | ofExpr {k : SortKey} (e : Expr) (direction : Direction) (h : e.toSortKey direction = .ok k) :
    SortKey.Obtainable k

inductive Query.Obtainable : Query → Prop
  | empty : Query.Obtainable .empty
  | update {q q' : Query} (u : Query.Update) (hq : q.Obtainable)
    (hfilter : ∀ n, u.filter = .set (some n) → n.Obtainable)
    (horder : ∀ ks, u.orderBy = .set ks → ∀ k ∈ ks, k.Obtainable)
    (hselect : ∀ cs, u.select = .set cs → ∀ c ∈ cs, c.Obtainable)
    (h : q.update u = .ok q') : Query.Obtainable q'
  | build {q : Query} (o : QueryOptions) (r : Registry) (h : (o.buildIn r).1 = .ok q) :
    Query.Obtainable q

end

mutual

/-- Every node that can be built has a text. -/
theorem Node.Obtainable.isSome_text? : {n : Node} → n.Obtainable → n.text?.isSome = true
  | _, .binary _ hl hr h => Node.isSome_text?_makeBinary h hl.isSome_text? hr.isSome_text?
  | _, .unary _ hn => by simpa using hn.isSome_text?
  | _, .call _ _ hargs => by
    simp only [Node.isSome_text?_call, List.all_eq_true]
    exact fun a ha => (hargs a ha).isSome_text?
  | _, .constant _ _ h => Node.isSome_text?_makeConstant h
  | _, .value _ h => Node.isSome_text?_makeConstant h
  | _, .member _ => by simp
  | _, .convert _ hm h => Node.isSome_text?_makeConvert h hm.isSome_text?
  | _, .sortKey hk => by simpa using hk.isSome_text?
  | _, .selectColumn _ => by simp
  | _, .query hq => by
    rw [Node.isSome_text?_query]
    exact hq.isSome_params?
  | _, .ofExpr e h => e.isSome_text?_toNode h

theorem SortKey.Obtainable.isSome_text? : {k : SortKey} → k.Obtainable →
    k.operand.text?.isSome = true
  | _, .make _ hn => hn.isSome_text?
  | _, .ofExpr _ _ h => Expr.isSome_text?_toSortKey h

/-- Every query that can be built has parameters. -/
theorem Query.Obtainable.isSome_params? : {q : Query} → q.Obtainable → q.params?.isSome = true
  | _, .empty => rfl
  | _, .update _ hq hfilter horder _ h =>
    Query.isSome_params?_update h hq.isSome_params? (fun n hn => (hfilter n hn).isSome_text?)
      fun ks hks k hk => (horder ks hks k hk).isSome_text?
  | _, .build o r h => (QueryOptions.yields_build o).ok r _ h

end

theorem Query.Obtainable.exists_params? {q : Query} (hq : q.Obtainable) :
    ∃ params, q.params? = some params :=
  Option.isSome_iff_exists.mp hq.isSome_params?

/-- The options come from the texts of the filter and of the sort keys. -/
theorem Query.exists_of_params?_eq_some {q : Query} {params : List (String × String)}
    (h : q.params? = some params) :
    ∃ filter orderBy, SortKey.texts? q.orderBy = some orderBy ∧
      params = q.paramsWith filter orderBy := by
  obtain ⟨filter, orderBy, top, skip, format, inlineCount, select⟩ := q
  simp only [Query.params?, Option.bind_eq_bind, Option.bind_eq_some_iff, Option.pure_def,
    Option.some.injEq] at h
  obtain ⟨f, -, o, ho, rfl⟩ := h
  exact ⟨f, o, ho, rfl⟩

/-- Whatever can be made has a text. The query command asks for no constant of the structured type
as a primitive one, and what it builds has a text as well. -/
theorem Query.exists_text?_of_obtainable (n : Node) (q : Query) (o : QueryOptions) (r : Registry)
    (hn : n.Obtainable) (hq : q.Obtainable) :
    (∃ text, n.text? = some text) ∧ (∃ text, q.text? = some text) ∧
      (o.buildIn r).1 ≠ .error (.argument (.constant .structured)) ∧
      (o.buildText r).1 ≠ .error .noText := by
  refine ⟨Option.isSome_iff_exists.mp hn.isSome_text?, ?_, ?_, ?_⟩
  · obtain ⟨params, hparams⟩ := hq.exists_params?
    exact ⟨Query.encode params, by rw [Query.text?, hparams, Option.map_some]⟩
  · intro h
    cases (QueryOptions.yields_build o).error r _ h
  · intro h
    cases (QueryOptions.yields_buildText o).error r _ h

def Node.adultByText : Node :=
  .binary .ge (.convert (.member (.ofMember (.declared "Age" .string))) .int32)
    (.constant (.int32 18) .int32)

def SortKey.nameDown : SortKey :=
  ⟨.member (.ofMember (.declared "Name" .string)), .descending⟩

def Query.firstAdults : Query :=
  ⟨some .adultByText, [.nameDown], some 10, 0, none, .none, [.wildcard]⟩

def Query.firstAdultsUpdate : Query.Update where
  filter := .set (some .adultByText)
  orderBy := .set [.nameDown]
  top := .set (some 10)
  select := .set [.wildcard]

def QueryOptions.ofKind : QueryOptions :=
  ⟨["Kind:Edm.Type?=Complex"], ["Name:string:desc"], some 10, 0, none, .none, ["*"]⟩

theorem Query.exists_text?_of_obtainable_firstAdults :
    Node.adultByText.Obtainable ∧ Query.firstAdults.Obtainable ∧
      Node.adultByText.text? = some "cast(Age, Edm.Int32) ge 18" ∧
      (∃ text, Node.adultByText.text? = some text) ∧
      (∃ text, Query.firstAdults.text? = some text) ∧
      (QueryOptions.ofKind.buildIn .empty).1 ≠ .error (.argument (.constant .structured)) ∧
      (QueryOptions.ofKind.buildText .empty).1 ≠ .error .noText := by
  have hnode : Node.adultByText.Obtainable :=
    .binary .ge (.convert .int32 (.member _) rfl) (.constant (.int32 18) .int32 rfl) rfl
  have hquery : Query.firstAdults.Obtainable := by
    refine .update Query.firstAdultsUpdate .empty ?_ ?_ ?_ rfl
    · intro n hn
      cases hn
      exact hnode
    · intro ks hks k hk
      cases hks
      rw [List.mem_singleton.mp hk]
      exact .make .descending (.member _)
    · intro cs hcs c hc
      cases hcs
      rw [List.mem_singleton.mp hc]
      exact .wildcard
  exact ⟨hnode, hquery, by decide, Query.exists_text?_of_obtainable Node.adultByText
    Query.firstAdults QueryOptions.ofKind .empty hnode hquery⟩

end RowQuery
