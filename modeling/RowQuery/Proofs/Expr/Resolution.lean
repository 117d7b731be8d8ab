import RowQuery.Proofs.Expr.Normalizing
import RowQuery.Proofs.Registry.Gains

/-!
What decides whether an expression can be normalized. Its typed reads are looked
at one after the other until one does not say which column it is of; that read
alone decides on the error. If all of them say it, they are requests to the
registry in the same order, and the registry gains what is missing for them.
-/

namespace RowQuery

/-- A search that passes some elements ends at the first, or passes it and ends at a later one. -/
theorem exists_split_cons_iff {α : Type} {P Q : α → Prop} {a : α} {as : List α} :
    (∃ before c after, a :: as = before ++ c :: after ∧ (∀ d ∈ before, P d) ∧ Q c) ↔
      Q a ∨ P a ∧ ∃ before c after, as = before ++ c :: after ∧ (∀ d ∈ before, P d) ∧ Q c := by
  constructor
  · rintro ⟨before, c, after, heq, hbefore, hc⟩
    cases before with
    | nil =>
      obtain ⟨rfl, -⟩ := List.cons.inj heq
      exact Or.inl hc
    | cons b before =>
      obtain ⟨rfl, rfl⟩ := List.cons.inj heq
      obtain ⟨ha, hrest⟩ := List.forall_mem_cons.mp hbefore
      exact Or.inr ⟨ha, before, c, after, rfl, hrest, hc⟩
  · rintro (ha | ⟨ha, before, c, after, rfl, hbefore, hc⟩)
    · exact ⟨[], a, as, rfl, by simp, ha⟩
    · exact ⟨a :: before, c, after, rfl, List.forall_mem_cons.mpr ⟨ha, hbefore⟩, hc⟩

namespace TypedRead

/-- The read has one argument, which is without parameters and has a value on its own. -/
def HasStaticValue (c : TypedRead) (v : Value) : Prop :=
  ∃ e, c.args = [e] ∧ e.hasParameters = false ∧ e.evaluate .empty = .ok v

def Names (c : TypedRead) (name : String) : Prop :=
  c.HasStaticValue (.string name) ∧ Text.isAllBlank name = false

def AsksFor (c : TypedRead) (request : String × ColumnType) : Prop :=
  c.Names request.1 ∧ c.type = request.2

/-- The read has null or white space where it should say its column. -/
def HasBlankName (c : TypedRead) : Prop :=
  c.HasStaticValue .null ∨
    ∃ name, c.HasStaticValue (.string name) ∧ Text.isAllBlank name = true

/-- The read does not say its column, and the error is the one for the reason. -/
def FailsWith (c : TypedRead) (x : NormalizeError) : Prop :=
  (∀ name, ¬c.Names name) ∧
    ((c.HasBlankName ∧ x = .blank c.type) ∨ (¬c.HasBlankName ∧ x = .unresolved c.type))

section Names

variable {c : TypedRead} {v : Value} {name : String} {x : NormalizeError}

theorem HasStaticValue.columnName_eq (h : c.HasStaticValue v) :
    c.columnName = v.columnName c.type := by
  obtain ⟨e, he, hparams, hv⟩ := h
  simp [columnName, he, Expr.columnName, hparams, hv]

theorem columnName_cases (c : TypedRead) :
    (∃ v, c.HasStaticValue v ∧ c.columnName = v.columnName c.type) ∨
      c.columnName = .error (.unresolved c.type) := by
  obtain ⟨type, args⟩ := c
  match args with
  | [] | _ :: _ :: _ => exact Or.inr rfl
  | [e] =>
    cases hparams : e.hasParameters with
    | true => exact Or.inr (by simp [columnName, Expr.columnName, hparams])
    | false =>
      cases hv : e.evaluate .empty with
      | error y => exact Or.inr (by simp [columnName, Expr.columnName, hparams, hv])
      | ok v =>
        have hstatic : HasStaticValue ⟨type, [e]⟩ v := ⟨e, rfl, hparams, hv⟩
        exact Or.inl ⟨v, hstatic, hstatic.columnName_eq⟩

theorem columnName_eq_ok_iff : c.columnName = .ok name ↔ c.Names name := by
  rw [columnName, Expr.columnName_eq_ok_iff]
  constructor
  · rintro ⟨e, he, hparams, hv, hblank⟩
    exact ⟨⟨e, he, hparams, hv⟩, hblank⟩
  · rintro ⟨⟨e, he, hparams, hv⟩, hblank⟩
    exact ⟨e, he, hparams, hv, hblank⟩

theorem HasBlankName.columnName_eq (h : c.HasBlankName) :
    c.columnName = .error (.blank c.type) := by
  rcases h with hnull | ⟨name, hname, hblank⟩
  · exact hnull.columnName_eq
  · rw [hname.columnName_eq, Value.columnName, if_pos hblank]

/-- A read that does not say its column has a blank name or is unresolved. -/
theorem blank_or_unresolved (h : ∀ name, ¬c.Names name) :
    c.HasBlankName ∨ c.columnName = .error (.unresolved c.type) := by
  rcases c.columnName_cases with ⟨v, hv, hname⟩ | hunresolved
  · cases v with
    | null => exact Or.inl (Or.inl hv)
    | string s =>
      cases hblank : Text.isAllBlank s with
      | true => exact Or.inl (Or.inr ⟨s, hv, hblank⟩)
      | false => exact absurd ⟨hv, hblank⟩ (h s)
    | _ => exact Or.inr hname
  · exact Or.inr hunresolved

/-- The error of a read says what is wrong with its name. -/
theorem columnName_eq_error_iff : c.columnName = .error x ↔ c.FailsWith x := by
  constructor
  · intro hx
    have hnames : ∀ name, ¬c.Names name := by
      intro name hname
      rw [← columnName_eq_ok_iff, hx] at hname
      cases hname
    refine ⟨hnames, ?_⟩
    by_cases hblank : c.HasBlankName
    · exact Or.inl ⟨hblank, Except.error.inj (hx.symm.trans hblank.columnName_eq)⟩
    · have hunresolved := (blank_or_unresolved hnames).resolve_left hblank
      exact Or.inr ⟨hblank, Except.error.inj (hx.symm.trans hunresolved)⟩
  · rintro ⟨hnames, ⟨hblank, rfl⟩ | ⟨hblank, rfl⟩⟩
    · exact hblank.columnName_eq
    · exact (blank_or_unresolved hnames).resolve_left hblank

end Names

end TypedRead

namespace Registry

variable {cs : List TypedRead} {r s : Registry} {x : NormalizeError}

/-- The reads are registered without failure exactly if each of them has a name. -/
theorem registerAll_fst_eq_ok_iff :
    (registerAll cs r).1 = .ok () ↔ ∀ c ∈ cs, ∃ name, c.Names name := by
  simp only [← TypedRead.columnName_eq_ok_iff]
  induction cs generalizing r with
  | nil => simp [registerAll]
  | cons c rest ih =>
    rw [List.forall_mem_cons, registerAll]
    cases hname : c.columnName with
    | error y => simp
    | ok name => simpa using ih

/-- The first read that does not say its column stops all of them with its error. -/
theorem registerAll_fst_eq_error_iff :
    (registerAll cs r).1 = .error x ↔
      ∃ before c after, cs = before ++ c :: after ∧ (∀ d ∈ before, ∃ name, d.Names name) ∧
        c.FailsWith x := by
  simp only [← TypedRead.columnName_eq_ok_iff, ← TypedRead.columnName_eq_error_iff]
  induction cs generalizing r with
  | nil => simp [registerAll]
  | cons c rest ih =>
    rw [exists_split_cons_iff, registerAll]
    cases hname : c.columnName with
    | error y => simp
    | ok name => simpa using ih

/-- Reads that all say their columns are served like requests. -/
theorem registerAll_eq_callAll (h : registerAll cs r = (.ok (), s)) :
    ∃ requests, List.Forall₂ TypedRead.AsksFor cs requests ∧ (r.callAll requests).2 = s := by
  induction cs generalizing r with
  | nil => exact ⟨[], .nil, congrArg Prod.snd h⟩
  | cons c rest ih =>
    simp only [registerAll] at h
    cases hname : c.columnName with
    | error y => simp [hname] at h
    | ok name =>
      simp only [hname] at h
      obtain ⟨requests, hrequests, hs⟩ := ih h
      have hc : c.AsksFor (name, c.type) := ⟨TypedRead.columnName_eq_ok_iff.mp hname, rfl⟩
      exact ⟨(name, c.type) :: requests, .cons hc hrequests, hs⟩

end Registry

/-- An expression can be normalized exactly if all its typed reads say their columns. Otherwise the
first that does not decides on the error. A registry is left with the properties that it lacked for
the types and names of the reads, numbered on in the order of the reads. -/
theorem Expr.normalizeIn_decided (e : Expr) (r : Registry) :
    ((∃ n, (e.normalizeIn r).1 = .ok n) ↔ ∀ c ∈ e.reads, ∃ name, c.Names name) ∧
      (∀ x, (e.normalizeIn r).1 = .error x ↔
        ∃ before c after, e.reads = before ++ c :: after ∧
          (∀ d ∈ before, ∃ name, d.Names name) ∧ c.FailsWith x) ∧
      ∀ n s, e.normalizeIn r = (.ok n, s) →
        ∃ requests added, List.Forall₂ TypedRead.AsksFor e.reads requests ∧
          s.properties = r.properties ++ added ∧ r.Gains requests added := by
  rw [Expr.normalizeIn_eq, ← Registry.registerAll_fst_eq_ok_iff (r := r)]
  simp only [← Registry.registerAll_fst_eq_error_iff (r := r)]
  rcases hreads : Registry.registerAll e.reads r with ⟨y | u, t⟩
  · simp
  · refine ⟨by simp, by simp, fun n s h => ?_⟩
    obtain ⟨rfl, rfl⟩ := h
    obtain ⟨requests, hrequests, rfl⟩ := Registry.registerAll_eq_callAll hreads
    obtain ⟨added, hadded, hgains⟩ := r.gains_callAll requests
    exact ⟨requests, added, hrequests, hadded, hgains⟩

def Expr.homeCity : Expr :=
  .column (.column (.row "r") .row "Home") .string "City"

/-- The city is known in another spelling, and the home is new. -/
theorem Expr.normalizeIn_decided_homeCity :
    ∃ n s, Expr.homeCity.normalizeIn ⟨[⟨1, "CITY", .string⟩]⟩ = (.ok n, s) ∧
      s.properties = [⟨1, "CITY", .string⟩, ⟨2, "Home", .row⟩] ∧
      ∃ requests added, List.Forall₂ TypedRead.AsksFor Expr.homeCity.reads requests ∧
        s.properties = [⟨1, "CITY", .string⟩] ++ added ∧
        Registry.Gains ⟨[⟨1, "CITY", .string⟩]⟩ requests added :=
  ⟨_, _, rfl, by decide +kernel, (Expr.normalizeIn_decided _ _).2.2 _ _ rfl⟩

end RowQuery
