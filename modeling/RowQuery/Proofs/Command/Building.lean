import RowQuery.Command.Query
import RowQuery.Proofs.Expr.Normalizing
import RowQuery.Proofs.Node.Printing

/-!
What the query command builds. Specifications give no column the structured
type as a primitive one, so that no constant of that type is ever asked for,
and the nodes of the command are made like all others. Each step of the command
gives what has a text, or ends in an error that a user can be told about.
-/

namespace RowQuery

theorem bind_eq_error_iff {ε α β : Type} {x : Except ε α} {f : α → Except ε β} {e : ε} :
    x >>= f = .error e ↔ x = .error e ∨ ∃ a, x = .ok a ∧ f a = .error e := by
  cases x <;> simp [bind, Except.bind]

section Specifications

variable {text : String} {c : ColumnType}

/-- No text names a structured type as the type of a column. -/
theorem ColumnType.parseKind_ne_structured {base : String} (h : parseKind base text = .ok c)
    (nullable : Bool) : c ≠ .of (.primitive .complex) nullable := by
  unfold parseKind at h
  split at h
  · cases h
    simp [row]
  · cases h
    simp [list]
  · cases h
    simp
  · cases h
    simp
  · split at h
    · cases h
    · cases h
    · rename_i hne _
      cases h
      simp only [ofEdm, ne_eq, of.injEq, ColumnKind.primitive.injEq, not_and]
      rintro rfl
      exact absurd rfl hne

/-- No text is the structured type as a primitive one. -/
theorem ColumnType.parse_ne_structured (h : parse text = .ok c) (nullable : Bool) :
    c ≠ .of (.primitive .complex) nullable := by
  unfold parse at h
  dsimp only at h
  split at h
  · cases hkind : parseKind (String.ofList (Text.trim text.toList).dropLast) text with
    | error e => simp [hkind, Except.map] at h
    | ok d =>
      have hd := parseKind_ne_structured hkind
      simp only [hkind, Except.map, Except.ok.injEq] at h
      subst h
      cases d with
      | any => simp [asNullable]
      | of kind other =>
        intro hof
        simp only [asNullable, of.injEq] at hof
        exact hd other (by rw [hof.1])
  · exact parseKind_ne_structured h nullable

theorem ColumnSpec.readParts_type {spec name : String} {parts : List String} {s : ColumnSpec}
    (h : readParts spec name parts = .ok s) (hc : s.type = some c) :
    ∃ text, ColumnType.parse text = .ok c := by
  have hargument : ∀ {text : String} {d : ColumnType},
      orArgument (ColumnType.parse text) = .ok d → ColumnType.parse text = .ok d := by
    intro text d hd
    cases hparse : ColumnType.parse text <;> simp_all [orArgument]
  unfold readParts at h
  split at h
  · cases h
    cases hc
  · rename_i type
    obtain ⟨d, hd, h⟩ := bind_eq_ok_iff.mp h
    cases h
    cases hc
    exact ⟨type, hargument hd⟩
  · rename_i type direction others
    obtain ⟨d, hd, h⟩ := bind_eq_ok_iff.mp h
    obtain ⟨e, -, h⟩ := bind_eq_ok_iff.mp h
    split at h
    · cases h
      cases hc
      exact ⟨type, hargument hd⟩
    · cases h

theorem ColumnSpec.read_type {spec : String} {s : ColumnSpec} (h : read spec = .ok s)
    (hc : s.type = some c) : ∃ text, ColumnType.parse text = .ok c := by
  unfold read at h
  dsimp only at h
  split at h
  · cases h
  · exact readParts_type h hc

/-- What is wrong with the specification of a column is never a constant. -/
theorem ColumnSpec.read_ne_constant (spec : String) (e : ConstantError) :
    read spec ≠ .error (.constant e) := by
  have hargument : ∀ {α : Type} (x : Except NameError α), orArgument x ≠ .error (.constant e) := by
    intro α x
    cases x <;> simp [orArgument]
  intro h
  unfold read at h
  dsimp only at h
  split at h
  · cases h
  · unfold readParts at h
    split at h
    · cases h
    · rcases bind_eq_error_iff.mp h with htype | ⟨d, -, h⟩
      · exact hargument _ htype
      · cases h
    · rcases bind_eq_error_iff.mp h with htype | ⟨d, -, h⟩
      · exact hargument _ htype
      · rcases bind_eq_error_iff.mp h with hdirection | ⟨direction, -, h⟩
        · exact hargument _ hdirection
        · split at h <;> cases h

/-- Only a constant of the structured type as a primitive one is refused for that type. -/
theorem Value.readConstant_eq_structured (h : readConstant text c = .error .structured) :
    ∃ nullable, c = .of (.primitive .complex) nullable := by
  unfold readConstant at h
  split at h
  · split at h <;> cases h
  · split at h
    · exact ⟨_, rfl⟩
    · split at h <;> cases h
    · cases h

/-- The constant of an equality is never refused for a structured type, as none can be written. -/
theorem EqualitySpec.read_ne_structured (spec : String) :
    read spec ≠ .error (.constant .structured) := by
  intro h
  unfold read at h
  split at h
  · cases h
  · rename_i column value _
    rcases bind_eq_error_iff.mp h with hcolumn | ⟨s, hs, h⟩
    · exact ColumnSpec.read_ne_constant _ _ hcolumn
    · dsimp only at h
      split at h
      · cases h
      · rename_i e he
        cases h
        obtain ⟨nullable, htype⟩ := Value.readConstant_eq_structured he
        cases hc : s.type with
        | none => simp [hc, ColumnType.string, ColumnType.ofEdm] at htype
        | some c =>
          obtain ⟨text, hparse⟩ := ColumnSpec.read_type hs hc
          rw [hc] at htype
          exact ColumnType.parse_ne_structured hparse nullable htype

end Specifications

/-- An updated query has texts if its own options and those of the update have them. -/
theorem Query.isSome_params?_update {q q' : Query} {u : Query.Update} (h : q.update u = .ok q')
    (hq : q.params?.isSome = true)
    (hfilter : ∀ n, u.filter = .set (some n) → n.text?.isSome = true)
    (horder : ∀ ks, u.orderBy = .set ks → ∀ k ∈ ks, k.operand.text?.isSome = true) :
    q'.params?.isSome = true := by
  simp only [Query.isSome_params?, Bool.and_eq_true, Option.all_eq_true, List.all_eq_true] at hq
  unfold update at h
  dsimp only at h
  split at h
  · cases h
  · cases h
    simp only [Query.isSome_params?, Bool.and_eq_true, Option.all_eq_true, List.all_eq_true]
    constructor
    · cases hu : u.filter with
      | keep => exact hq.1
      | set filter =>
        rintro n hn
        cases hn
        exact hfilter n hu
    · cases hu : u.orderBy with
      | keep => exact hq.2
      | set ks => exact horder ks hu

/-- The errors that would mean a fault of the command itself: a constant of the structured type as a
primitive one, or a query without a text. -/
def CommandError.isDefect : CommandError → Bool
  | .argument (.constant .structured) | .noText => true
  | _ => false

theorem CommandError.isDefect_argument {e : ArgumentError} (h : e ≠ .constant .structured) :
    (CommandError.argument e).isDefect = false := by
  unfold isDefect
  split
  · rename_i he
    exact absurd (CommandError.argument.inj he) h
  · rename_i he
    cases he
  · rfl

namespace QueryOptions

variable {α β : Type} {P : α → Prop} {Q : β → Prop}

/-- All that a step gives has a property, and it does not end in a defect. -/
structure Yields (P : α → Prop) (x : Building α) : Prop where
  ok (r : Registry) (a : α) : (x r).1 = .ok a → P a
  error (r : Registry) (e : CommandError) : (x r).1 = .error e → e.isDefect = false

theorem Yields.pure {a : α} (h : P a) : Yields P (pure a) := by
  constructor
  · intro r b hb
    cases hb
    exact h
  · intro r e he
    cases he

/-- What follows a step may rely on what the step yields. -/
theorem Yields.bind {x : Building α} {f : α → Building β} (hx : Yields P x)
    (hf : ∀ a, P a → Yields Q (f a)) : Yields Q (x >>= f) := by
  constructor
  · intro r b hb
    have hok := hx.ok r
    rw [Registering.bind_apply] at hb
    rcases hr : x r with ⟨e | a, s⟩
    · simp [hr] at hb
    · rw [hr] at hb hok
      exact (hf a (hok a rfl)).ok s b hb
  · intro r e he
    have hok := hx.ok r
    have herror := hx.error r
    rw [Registering.bind_apply] at he
    rcases hr : x r with ⟨e' | a, s⟩
    · rw [hr] at he herror
      cases he
      exact herror e rfl
    · rw [hr] at he hok
      exact (hf a (hok a rfl)).error s e he

theorem Yields.step {ε : Type} {part : ε → CommandError} {result : Except ε α}
    (hok : ∀ a, result = .ok a → P a)
    (herror : ∀ e, result = .error e → (part e).isDefect = false) :
    Yields P (step part result) := by
  constructor
  · intro r a ha
    cases result with
    | ok b =>
      cases ha
      exact hok a rfl
    | error e => cases ha
  · intro r e he
    cases result with
    | ok b => cases he
    | error x =>
      cases he
      exact herror x rfl

theorem yields_normalized (e : Expr) : Yields (fun _ => True) (normalized e) := by
  constructor
  · intro r n _
    trivial
  · intro r x hx
    unfold normalized at hx
    rcases hn : e.normalizeIn r with ⟨y | n, s⟩
    · simp only [hn, CommandError.lift] at hx
      cases hx
      rfl
    · simp [hn, CommandError.lift] at hx

/-- The filter that is built has a text. -/
theorem yields_filterNode (predicate : Option Expr) :
    Yields (fun c : Change (Option Node) => ∀ n, c = .set (some n) → n.text?.isSome = true)
      (filterNode predicate) := by
  cases predicate with
  | none =>
    apply Yields.pure
    intro n hn
    cases hn
  | some e =>
    apply (yields_normalized e).bind
    intro n _
    have hnode : Yields (fun a : Node => a.text?.isSome = true)
        (QueryOptions.step .counterpart n.toNode) :=
      Yields.step (fun a ha => Expr.isSome_text?_toNode n ha) fun _ _ => rfl
    apply hnode.bind
    intro a ha
    apply Yields.pure
    intro m hm
    cases hm
    exact ha

theorem yields_columnSpec (spec : String) :
    Yields (fun _ => True) (QueryOptions.step .argument (ColumnSpec.read spec)) := by
  apply Yields.step (fun _ _ => trivial)
  intro e he
  apply CommandError.isDefect_argument
  rintro rfl
  exact ColumnSpec.read_ne_constant spec _ he

theorem yields_sortKey (spec : String) :
    Yields (fun k : SortKey => k.operand.text?.isSome = true) (sortKey spec) := by
  unfold sortKey
  apply (yields_columnSpec spec).bind
  intro c _
  apply (yields_normalized _).bind
  intro e _
  exact Yields.step (fun k hk => Expr.isSome_text?_toSortKey hk) fun _ _ => rfl

theorem yields_sortKeys (specs : List String) :
    Yields (fun ks : List SortKey => ∀ k ∈ ks, k.operand.text?.isSome = true)
      (sortKeys specs) := by
  induction specs with
  | nil => exact Yields.pure (by simp)
  | cons spec rest ih =>
    rw [sortKeys]
    apply (yields_sortKey spec).bind
    intro k hk
    apply ih.bind
    intro ks hks
    exact Yields.pure (List.forall_mem_cons.mpr ⟨hk, hks⟩)

theorem yields_selectColumn (spec : String) : Yields (fun _ => True) (selectColumn spec) := by
  unfold selectColumn
  split
  · exact Yields.pure trivial
  · apply (yields_columnSpec spec).bind
    intro c _
    apply (yields_normalized _).bind
    intro e _
    exact Yields.step (fun _ _ => trivial) fun _ _ => rfl

theorem yields_selectColumns (specs : List String) :
    Yields (fun _ => True) (selectColumns specs) := by
  induction specs with
  | nil => exact Yields.pure trivial
  | cons spec rest ih =>
    rw [selectColumns]
    apply (yields_selectColumn spec).bind
    intro c _
    apply ih.bind
    intro cs _
    exact Yields.pure trivial

theorem readEqualities_ne_structured (specs : List String) :
    readEqualities specs ≠ .error (.constant .structured) := by
  induction specs with
  | nil => simp [readEqualities]
  | cons spec rest ih =>
    intro h
    rcases bind_eq_error_iff.mp h with hspec | ⟨e, -, h⟩
    · exact EqualitySpec.read_ne_structured spec hspec
    · rcases bind_eq_error_iff.mp h with hrest | ⟨es, -, h⟩
      · exact ih hrest
      · cases h

theorem yields_equalities (specs : List String) :
    Yields (fun _ => True) (QueryOptions.step .argument (readEqualities specs)) := by
  apply Yields.step (fun _ _ => trivial)
  intro e he
  apply CommandError.isDefect_argument
  rintro rfl
  exact readEqualities_ne_structured specs he

/-- The command gives queries with texts only. -/
theorem yields_build (o : QueryOptions) :
    Yields (fun q : Query => q.params?.isSome = true) o.build := by
  unfold build
  apply (yields_equalities o.equals).bind
  intro equalities _
  apply (yields_filterNode _).bind
  intro filter hfilter
  apply (yields_sortKeys o.orderBy).bind
  intro orderBy horder
  apply (yields_selectColumns o.select).bind
  intro select _
  apply Yields.step
  · intro q hq
    apply Query.isSome_params?_update hq rfl hfilter
    intro ks hks
    cases hks
    exact horder
  · intro e _
    rfl

/-- Building a query from options ends in its text or in an error of the input. -/
theorem yields_buildText (o : QueryOptions) : Yields (fun _ => True) o.buildText := by
  unfold buildText
  apply (yields_build o).bind
  intro q hq
  obtain ⟨params, hparams⟩ := Option.isSome_iff_exists.mp hq
  simp only [Query.text?, hparams, Option.map_some]
  exact Yields.pure trivial

end QueryOptions

end RowQuery
