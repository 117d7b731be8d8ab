import Mathlib.Data.List.Forall2
import RowQuery.Proofs.ColumnType.Names
import RowQuery.Proofs.Command.Specifications
import RowQuery.Proofs.Query.Updates
import RowQuery.Proofs.Registry.Steps

/-!
The query that options describe. Where all their specifications can be read and
compare columns of primitive types, no step between the specifications and the
query fails or loses one. The filter joins the comparisons in their order and
without parentheses, sort keys and columns of the projection are listed in
theirs, and all columns are spelled as in the first request for them.
-/

namespace RowQuery

namespace EqualitySpec

variable {e : EqualitySpec}

def request (e : EqualitySpec) : String × ColumnType :=
  (e.name, e.type)

def text? (spelled : Spelling) (e : EqualitySpec) : Option String :=
  (e.value.literal? e.type.edmType).map fun literal => spelled e.name e.type ++ " eq " ++ literal

/-- What a comparison needs to become a node: a name, and a constant of a primitive type. -/
structure IsComparable (e : EqualitySpec) : Prop where
  named : Text.isAllBlank e.name = false
  primitive : ∃ t nullable, e.type = .of (.primitive t) nullable ∧ t ≠ .complex ∧
    (e.value.isNull = true ∨ e.value.type? = some t)

theorem IsComparable.ofConstant (h : e.IsComparable) :
    Node.ofConstant e.value e.type = .ok (.constant e.value e.type.edmType) := by
  obtain ⟨t, nullable, htype, hcomplex, hvalue⟩ := h.primitive
  have hfits : (t != .complex && (e.value.isNull || e.value.type? == some t)) = true := by
    simpa [hcomplex] using hvalue
  rw [htype, Node.ofConstant, Node.makeConstant, if_pos hfits]
  rfl

theorem IsComparable.exists_literal (h : e.IsComparable) :
    ∃ literal, e.value.literal? e.type.edmType = some literal :=
  Option.isSome_iff_exists.mp (Node.isSome_text?_ofConstant h.ofConstant)

end EqualitySpec

namespace ColumnSpec

def readSelected (spec : String) : Except ArgumentError (Option ColumnSpec) :=
  if Text.trimmed spec = "*" then .ok none else (read spec).map some

theorem readSelected_cases {spec : String} {c : Option ColumnSpec} (h : readSelected spec = .ok c) :
    (Text.trimmed spec = "*" ∧ c = none) ∨
      (Text.trimmed spec ≠ "*" ∧ ∃ d, read spec = .ok d ∧ c = some d) := by
  rw [readSelected] at h
  split at h
  · rename_i hall
    cases h
    exact Or.inl ⟨hall, rfl⟩
  · rename_i hcolumn
    refine Or.inr ⟨hcolumn, ?_⟩
    cases hread : read spec with
    | error e => simp [hread, Except.map] at h
    | ok d =>
      rw [hread] at h
      exact ⟨d, rfl, (Except.ok.inj h).symm⟩

/-- Asks for the column, with a type for columns without one. -/
def request (other : ColumnType) (c : ColumnSpec) : String × ColumnType :=
  (c.name, c.type.getD other)

/-- The sort key in a spelling. Only descending ones tell their direction. -/
def sortText (spelled : Spelling) (c : ColumnSpec) : String :=
  spelled c.name (c.type.getD .string) ++ if c.direction = .descending then " desc" else ""

def selectText (spelled : Spelling) : Option ColumnSpec → String
  | none => "*"
  | some c => spelled c.name (c.type.getD .any)

end ColumnSpec

structure Specifications where
  equals : List EqualitySpec
  orderBy : List ColumnSpec
  select : List (Option ColumnSpec)

def Specifications.requests (specs : Specifications) : List (String × ColumnType) :=
  specs.equals.map EqualitySpec.request ++ specs.orderBy.map (ColumnSpec.request .string) ++
    specs.select.filterMap (Option.map (ColumnSpec.request .any))

/-- All specifications of the options can be read. -/
structure QueryOptions.ReadAs (o : QueryOptions) (specs : Specifications) : Prop where
  equals : List.Forall₂ (fun spec e => EqualitySpec.read spec = .ok e) o.equals specs.equals
  orderBy : List.Forall₂ (fun spec c => ColumnSpec.read spec = .ok c) o.orderBy specs.orderBy
  select : List.Forall₂ (fun spec c => ColumnSpec.readSelected spec = .ok c) o.select specs.select

def Query.joinedComparisons (texts : List String) : Option String :=
  if texts.isEmpty then none else some (String.intercalate " and " texts)

/-- A query with what the specifications say, in a spelling, and with the other options as they are
given. -/
structure Query.DescribedBy (q : Query) (o : QueryOptions) (specs : Specifications)
    (spelled : Spelling) (texts : List String) : Prop where
  comparisons : specs.equals.map (EqualitySpec.text? spelled) = texts.map some
  filter : Node.filterText? q.filter = some (joinedComparisons texts)
  orderBy : SortKey.texts? q.orderBy = some (specs.orderBy.map (ColumnSpec.sortText spelled))
  select : q.select.map SelectColumn.text = specs.select.map (ColumnSpec.selectText spelled)
  top : q.top = o.top
  skip : q.skip = o.skip
  format : q.format = o.format
  inlineCount : q.inlineCount = o.inlineCount

/-- The parameters of a query follow from the texts of its filter and of its sort keys. -/
theorem Query.params?_eq_paramsWith (q : Query) {filter : Option String} {orderBy : List String}
    (hfilter : Node.filterText? q.filter = some filter)
    (horder : SortKey.texts? q.orderBy = some orderBy) :
    q.params? = some (q.paramsWith filter orderBy) := by
  cases q
  rw [params?, hfilter, horder]
  rfl

section Columns

variable {name : String} {type : ColumnType}

theorem MemberPath.text_ofMember (m : Member) : (MemberPath.ofMember m).text = m.name := by
  simp [text, members, ofMember]

def Expr.IsRowRead (n : Expr) (name : String) (type : ColumnType) : Prop :=
  ∃ p : Property, n = .member (some (.row QueryOptions.rowParameter)) (.row p) ∧
    p.name = name ∧ p.columnType = type

/-- The read of a column that has a name becomes a property. -/
theorem QueryOptions.gives_columnRead (h : Text.isAllBlank name = false) (type : ColumnType) :
    Registering.Gives [(name, type)] (fun spelled n => n.IsRowRead (spelled name type) type)
      (columnRead name type).normalize := by
  have hname : Expr.columnName type [.ofName name] = .ok name :=
    Expr.columnName_eq_ok_iff.mpr ⟨.ofName name, rfl, rfl, rfl, h⟩
  rw [columnRead, Expr.column, Expr.normalize, hname]
  refine Registering.gives_bind_ok ((Registering.gives_property name type).andThen ?_)
  intro _ p _
  exact Registering.gives_ok fun spelled hp => ⟨p, rfl, hp⟩

end Columns

section Filter

/-- A Boolean node that stands in a conjunction without parentheses, with its text. -/
structure Node.IsConjunct (n : Node) (text? : Option String) : Prop where
  type_eq : n.type = .boolean
  wrap_eq : ∀ text, BinaryOp.and.wrap n text = text
  text_eq : n.text? = text?

def Expr.IsConjunct (e : Expr) (text? : Option String) : Prop :=
  ∃ n, e.toNode = .ok n ∧ n.IsConjunct text?

def bothTexts (left right : Option String) : Option String := do
  let l ← left
  let r ← right
  return l ++ " and " ++ r

/-- Joining texts one after the other is joining them all. -/
theorem foldl_bothTexts (first : String) (texts : List String) :
    (texts.map some).foldl bothTexts (some first) =
      some (String.intercalate " and " (first :: texts)) := by
  induction texts generalizing first with
  | nil => simp
  | cons text rest ih =>
    have hboth : bothTexts (some first) (some text) = some (first ++ " and " ++ text) := rfl
    rw [List.map_cons, List.foldl_cons, hboth, ih, String.intercalate_cons_append,
      String.intercalate_cons_cons]

variable {l r : Expr} {s t : Option String} {es : List EqualitySpec}

/-- The conjunction of two conjuncts is one, which needs no parentheses on either side. -/
theorem Expr.IsConjunct.and (hl : l.IsConjunct s) (hr : r.IsConjunct t) :
    (Expr.binary .and l r).IsConjunct (bothTexts s t) := by
  obtain ⟨m, hm, hm'⟩ := hl
  obtain ⟨n, hn, hn'⟩ := hr
  refine ⟨.binary .and m n, ?_, rfl, fun _ => rfl, ?_⟩
  · rw [toNode, hm, hn]
    exact Node.ofOperation_of_type_eq .and (hm'.type_eq.trans hn'.type_eq.symm)
  · rw [Node.text?, hm'.text_eq, hn'.text_eq, bothTexts]
    cases s <;> cases t <;> simp [hm'.wrap_eq, hn'.wrap_eq, BinaryOp.keyword, String.append_assoc]

/-- The comparison of a column as a property with a constant. -/
theorem EqualitySpec.IsComparable.isConjunct {e : EqualitySpec} (h : e.IsComparable)
    {spelled : Spelling} {n : Expr} (hn : n.IsRowRead (spelled e.name e.type) e.type) :
    (Expr.binary .eq n (.constant e.value e.type)).IsConjunct (e.text? spelled) := by
  obtain ⟨p, rfl, hname, htype⟩ := hn
  obtain ⟨literal, hliteral⟩ := h.exists_literal
  have hpath : (Node.member (.ofMember (.row p))).type = e.type.edmType := by
    rw [Node.type, MemberPath.type, MemberPath.ofMember, Member.type, htype]
  refine ⟨.binary .eq (.member (.ofMember (.row p))) (.constant e.value e.type.edmType),
    ?_, rfl, fun _ => rfl, ?_⟩
  · simp only [Expr.toNode, Expr.toPath, Expr.row, h.ofConstant]
    exact Node.ofOperation_of_type_eq .eq hpath
  · rw [EqualitySpec.text?, hliteral]
    simp [Node.text?, hliteral, MemberPath.text_ofMember, Member.name, hname, BinaryOp.wrap,
      BinaryOp.keyword, String.append_assoc]

namespace QueryOptions

open Registering

/-- A comparison asks for its column. -/
theorem gives_comparison {e : EqualitySpec} (h : e.IsComparable) :
    Gives [e.request] (fun spelled n => n.IsConjunct (e.text? spelled))
      (comparison e).normalize := by
  rw [comparison, Expr.normalize]
  refine (gives_columnRead h.named e.type).andThen ?_
  intro _ n _
  exact gives_ok fun spelled hn => h.isConjunct hn

/-- Comparisons that are joined to what stands before them ask for their columns after it. The
conjunction grows on the left, so that in the induction the next comparison goes over to the first
one. -/
theorem gives_foldl_comparisons (hes : ∀ e ∈ es, e.IsComparable) {first : Expr}
    {requests : List (String × ColumnType)} {text? : Spelling → Option String}
    (hfirst : Gives requests (fun spelled n => n.IsConjunct (text? spelled)) first.normalize) :
    Gives (requests ++ es.map EqualitySpec.request)
      (fun spelled n =>
        n.IsConjunct ((es.map (EqualitySpec.text? spelled)).foldl bothTexts (text? spelled)))
      ((es.map comparison).foldl (fun left right => .binary .and left right) first).normalize := by
  induction es generalizing first requests text? with
  | nil => simpa using hfirst
  | cons e rest ih =>
    obtain ⟨he, hrest⟩ := List.forall_mem_cons.mp hes
    have hboth : Gives (requests ++ [e.request])
        (fun spelled n => n.IsConjunct (bothTexts (text? spelled) (e.text? spelled)))
        (Expr.binary .and first (comparison e)).normalize := by
      rw [Expr.normalize]
      refine hfirst.bind fun _ l _ => (gives_comparison he).map ?_
      intro _ r hr hl
      exact hl.and hr
    have h := ih hrest hboth
    rwa [List.append_assoc] at h

/-- Comparisons have texts, whatever the spelling. -/
theorem exists_texts (hes : ∀ e ∈ es, e.IsComparable) (spelled : Spelling) :
    ∃ texts : List String, es.map (EqualitySpec.text? spelled) = texts.map some := by
  induction es with
  | nil => exact ⟨[], rfl⟩
  | cons e rest ih =>
    obtain ⟨he, hrest⟩ := List.forall_mem_cons.mp hes
    obtain ⟨literal, hliteral⟩ := he.exists_literal
    obtain ⟨texts, htexts⟩ := ih hrest
    exact ⟨(spelled e.name e.type ++ " eq " ++ literal) :: texts, by
      rw [List.map_cons, List.map_cons, htexts, EqualitySpec.text?, hliteral, Option.map_some]⟩

structure IsFilter (es : List EqualitySpec) (spelled : Spelling) (filter : Option Node) :
    Prop where
  type_eq : ∀ n, filter = some n → n.type = .boolean
  text_eq : ∃ texts : List String, es.map (EqualitySpec.text? spelled) = texts.map some ∧
    Node.filterText? filter = some (Query.joinedComparisons texts)

theorem gives_normalized {e : Expr} {requests : List (String × ColumnType)}
    {P : Spelling → Expr → Prop} (h : Gives requests P e.normalize) :
    Gives requests P (normalized e) := by
  intro r
  obtain ⟨n, hr, hn⟩ := h r
  refine ⟨n, ?_, hn⟩
  rw [normalized, Expr.normalizeIn, hr]
  rfl

/-- The filter asks for the columns of its equalities, in their order. -/
theorem gives_filterNode (hes : ∀ e ∈ es, e.IsComparable) :
    Gives (es.map EqualitySpec.request)
      (fun spelled filter => IsFilter es spelled (filter.apply none))
      (filterNode (conjunction (es.map comparison))) := by
  cases es with
  | nil =>
    refine gives_ok fun spelled => ⟨?_, [], rfl, rfl⟩
    rintro n ⟨⟩
  | cons e rest =>
    obtain ⟨he, hrest⟩ := List.forall_mem_cons.mp hes
    refine (gives_normalized (gives_foldl_comparisons hrest (gives_comparison he))).andThen ?_
    rintro _ c ⟨n, hn, -⟩
    rw [hn]
    refine gives_bind_ok (gives_ok fun spelled hc => ?_)
    obtain ⟨m, hm, hconjunct⟩ := hc
    obtain rfl : n = m := Except.ok.inj (hn.symm.trans hm)
    obtain ⟨texts, htexts⟩ := exists_texts hes spelled
    refine ⟨?_, texts, htexts, ?_⟩
    · rintro k ⟨⟩
      exact hconjunct.type_eq
    · cases texts with
      | nil => simp at htexts
      | cons text others =>
        rw [List.map_cons, List.map_cons, List.cons.injEq] at htexts
        have htext := hconjunct.text_eq
        rw [htexts.1, htexts.2, foldl_bothTexts] at htext
        simp [Change.apply, Node.filterText?, htext, Query.joinedComparisons]

end QueryOptions

end Filter

namespace QueryOptions

open Registering

variable {o : QueryOptions} {specs : Specifications} {spec : String} {listed : List String}

/-- A column that is read, and what a property of the row is turned into. -/
theorem gives_column {β : Type} {Q : Spelling → β → Prop} {c : ColumnSpec} {other : ColumnType}
    {make : Expr → Except CounterpartError β} {made : Property → β}
    (h : ColumnSpec.read spec = .ok c)
    (hmake : ∀ p, make (.member (some (.row rowParameter)) (.row p)) = .ok (made p))
    (hmade : ∀ spelled p, p.name = spelled c.name (c.type.getD other) → Q spelled (made p)) :
    Gives [c.request other] Q (do
      let e ← normalized (columnRead c.name (c.type.getD other))
      step .counterpart (make e)) := by
  have hnamed := ColumnSpec.isAllBlank_of_read h
  refine (gives_normalized (gives_columnRead hnamed (c.type.getD other))).andThen ?_
  rintro _ n ⟨p, rfl, -⟩
  rw [hmake]
  refine gives_ok fun spelled hn => ?_
  obtain ⟨q, hq, hname, -⟩ := hn
  cases hq
  exact hmade spelled p hname

theorem gives_sortKey {c : ColumnSpec} (h : ColumnSpec.read spec = .ok c) :
    Gives [c.request .string] (fun spelled k => k.text? = some (c.sortText spelled))
      (sortKey spec) := by
  rw [sortKey, h]
  refine gives_bind_ok (gives_column h (fun _ => rfl) ?_)
  intro spelled p hname
  rw [SortKey.text?, Node.text?, MemberPath.text_ofMember, Member.name, hname, ColumnSpec.sortText]
  cases c.direction <;> rfl

/-- Sort keys ask for their columns in the order of their specifications. -/
theorem gives_sortKeys {cs : List ColumnSpec}
    (h : List.Forall₂ (fun spec c => ColumnSpec.read spec = .ok c) listed cs) :
    Gives (cs.map (ColumnSpec.request .string))
      (fun spelled ks => SortKey.texts? ks = some (cs.map (ColumnSpec.sortText spelled)))
      (sortKeys listed) := by
  induction h with
  | nil => exact gives_ok fun _ => rfl
  | cons hc _ ih =>
    refine ((gives_sortKey hc).cons ih).mono ?_
    rintro spelled _ ⟨k, ks, rfl, hk, hks⟩
    rw [SortKey.texts?, hk, hks]
    rfl

theorem gives_selectColumn {c : Option ColumnSpec} (h : ColumnSpec.readSelected spec = .ok c) :
    Gives ([c].filterMap (Option.map (ColumnSpec.request .any)))
      (fun spelled k => k.text = ColumnSpec.selectText spelled c) (selectColumn spec) := by
  rw [selectColumn]
  rcases ColumnSpec.readSelected_cases h with ⟨hall, rfl⟩ | ⟨hcolumn, d, hd, rfl⟩
  · rw [if_pos hall]
    exact gives_ok fun _ => rfl
  · rw [if_neg hcolumn, hd]
    refine gives_bind_ok (gives_column hd (fun _ => rfl) ?_)
    intro spelled p hname
    rw [ColumnSpec.selectText, ← hname]
    exact MemberPath.text_ofMember (.row p)

/-- Selected columns ask for their properties in order, the star for none. -/
theorem gives_selectColumns {cs : List (Option ColumnSpec)}
    (h : List.Forall₂ (fun spec c => ColumnSpec.readSelected spec = .ok c) listed cs) :
    Gives (cs.filterMap (Option.map (ColumnSpec.request .any)))
      (fun spelled ks => ks.map SelectColumn.text = cs.map (ColumnSpec.selectText spelled))
      (selectColumns listed) := by
  induction h with
  | nil => exact gives_ok fun _ => rfl
  | @cons _ c _ cs hc _ ih =>
    have hsplit : (c :: cs).filterMap (Option.map (ColumnSpec.request .any)) =
        [c].filterMap (Option.map (ColumnSpec.request .any)) ++
          cs.filterMap (Option.map (ColumnSpec.request .any)) := by
      rw [← List.filterMap_append, List.singleton_append]
    rw [hsplit]
    refine ((gives_selectColumn hc).cons ih).mono ?_
    rintro spelled _ ⟨k, ks, rfl, hk, hks⟩
    rw [List.map_cons, List.map_cons, hk, hks]

theorem readEqualities_eq_ok {es : List EqualitySpec}
    (h : List.Forall₂ (fun spec e => EqualitySpec.read spec = .ok e) listed es) :
    readEqualities listed = .ok es := by
  induction h with
  | nil => rfl
  | cons he _ ih =>
    rw [readEqualities, he, ih]
    rfl

/-- What is read as a filter can be compared if its column has a primitive type. -/
theorem ReadAs.isComparable (h : o.ReadAs specs)
    (hprimitive : ∀ e ∈ specs.equals, ∃ t nullable, e.type = .of (.primitive t) nullable) :
    ∀ e ∈ specs.equals, e.IsComparable := by
  have hread : ∀ e ∈ specs.equals, ∃ spec, EqualitySpec.read spec = .ok e :=
    ((List.forall₂_and_left _ _).mp
      (h.equals.flip.imp fun _ spec hspec => ⟨⟨spec, hspec⟩, hspec⟩)).1
  intro e he
  obtain ⟨spec, hspec⟩ := hread e he
  obtain ⟨hname, hvalue⟩ := EqualitySpec.of_read hspec
  obtain ⟨t, nullable, htype⟩ := hprimitive e he
  exact ⟨hname, t, nullable, htype, hvalue t nullable htype⟩

/-- Building serves the requests of the specifications and gives the query that they describe. The
update refuses nothing but a filter of another type than Boolean. -/
theorem gives_build (h : o.ReadAs specs) (hes : ∀ e ∈ specs.equals, e.IsComparable) :
    Gives specs.requests (fun spelled q => ∃ texts, q.DescribedBy o specs spelled texts)
      o.build := by
  rw [build, readEqualities_eq_ok h.equals, Specifications.requests, List.append_assoc]
  refine gives_bind_ok ((gives_filterNode hes).bind ?_)
  intro here filter hfilter
  refine (gives_sortKeys h.orderBy).bind ?_
  intro _ orderBy _
  refine (gives_selectColumns h.select).andThen ?_
  intro _ select _
  have hboolean : (Query.empty.changed {
      filter
      orderBy := .set orderBy
      top := .set o.top
      skip := .set o.skip
      format := .set o.format
      inlineCount := .set o.inlineCount
      select := .set select }).HasBooleanFilter := hfilter.type_eq
  dsimp only
  rw [Query.update_eq_ok_iff.mpr ⟨hboolean, rfl⟩]
  refine gives_ok fun spelled hselect horder hfilter => ?_
  obtain ⟨texts, htexts, hfilterText⟩ := hfilter.text_eq
  exact ⟨texts, htexts, hfilterText, horder, hselect, rfl, rfl, rfl, rfl⟩

/-- Where the specifications can be read and the filters are of primitive types, a query is built.
Its filter joins the comparisons in their order, its lists have an entry for each specification in
theirs, every column is spelled as in the first request for it, be it one that the registry has
served before, and the other options are those given. -/
theorem buildIn_describedBy (h : o.ReadAs specs)
    (hprimitive : ∀ e ∈ specs.equals, ∃ t nullable, e.type = .of (.primitive t) nullable)
    (r : Registry) :
    ∃ q texts, o.buildIn r = (.ok q, (r.callAll specs.requests).2) ∧
      q.DescribedBy o specs (r.firstSpelling specs.requests) texts ∧
      q.params? = some (q.paramsWith (Query.joinedComparisons texts)
        (specs.orderBy.map (ColumnSpec.sortText (r.firstSpelling specs.requests)))) := by
  obtain ⟨q, hq, hdescribed⟩ := gives_build h (h.isComparable hprimitive) r
  obtain ⟨texts, hq'⟩ := hdescribed _ (Registry.Extends.refl _)
  have hspelled : (r.callAll specs.requests).2.spelling = r.firstSpelling specs.requests := by
    funext name type
    exact r.spelling_callAll specs.requests name type
  rw [hspelled] at hq'
  exact ⟨q, texts, hq, hq', q.params?_eq_paramsWith hq'.filter hq'.orderBy⟩

def respelled : QueryOptions where
  equals := ["name=O'Neil", "Age:int32?=null"]
  orderBy := ["AGE:int32?:desc", "NAME"]
  top := some 5
  skip := 0
  format := none
  inlineCount := .allPages
  select := ["Name", " * "]

def respelledSpecifications : Specifications where
  equals := [⟨"name", .string, .string "O'Neil"⟩, ⟨"Age", .of (.primitive .int32) true, .null⟩]
  orderBy :=
    [⟨"AGE", some (.of (.primitive .int32) true), .descending⟩, ⟨"NAME", none, .ascending⟩]
  select := [some ⟨"Name", none, .ascending⟩, none]

theorem readAs_respelled : respelled.ReadAs respelledSpecifications := by
  have hnamed : EdmType.IsNamed (ColumnType.unmarked "int32?") .int32 := by
    simp only [EdmType.IsNamed, Text.asciiLower_eq]
    decide
  have hheading : ¬EdmType.HasMixedHeading (ColumnType.unmarked "int32?") := by
    simp only [EdmType.HasMixedHeading, Text.asciiLower_eq]
    decide
  have htype : ColumnType.parse "int32?" = .ok (.of (.primitive .int32) true) :=
    ColumnType.parse_eq_ok_iff.mpr ⟨⟨_, .primitive hnamed (by decide), rfl⟩, hheading⟩
  have hdirection : Direction.parse "desc" = .ok .descending := by
    simp only [Direction.parse, Text.asciiLower_eq]
    rfl
  have hfilter : EqualitySpec.read "Age:int32?=null" =
      .ok ⟨"Age", .of (.primitive .int32) true, .null⟩ := by
    have hcut : Text.splitFirst? '=' "Age:int32?=null".toList =
        some ("Age:int32?".toList, "null".toList) := rfl
    have hparts : ColumnSpec.read "Age:int32?" =
        ColumnSpec.readParts "Age:int32?" "Age" ["int32?"] := rfl
    rw [EqualitySpec.read, hcut]
    simp only [String.ofList_toList, hparts, ColumnSpec.readParts, htype]
    rfl
  have hkey : ColumnSpec.read "AGE:int32?:desc" =
      .ok ⟨"AGE", some (.of (.primitive .int32) true), .descending⟩ := by
    have hparts : ColumnSpec.read "AGE:int32?:desc" =
        ColumnSpec.readParts "AGE:int32?:desc" "AGE" ["int32?", "desc"] := rfl
    rw [hparts, ColumnSpec.readParts, htype, hdirection]
    rfl
  exact ⟨.cons rfl (.cons hfilter .nil), .cons hkey (.cons rfl .nil), .cons rfl (.cons rfl .nil)⟩

/-- The registry has served the name as a string before, in a spelling of its own. -/
theorem buildIn_describedBy_respelled :
    respelled.ReadAs respelledSpecifications ∧
      (∀ e ∈ respelledSpecifications.equals, ∃ t nullable, e.type = .of (.primitive t) nullable) ∧
      ∃ q, (respelled.buildIn ⟨[⟨1, "NaMe", .string⟩]⟩).1 = .ok q ∧
        q.params? = some [("$filter", "NaMe eq 'O''Neil' and Age eq null"),
          ("$orderby", "Age desc,NaMe"), ("$top", "5"), ("$inlinecount", "allpages"),
          ("$select", "Name,*")] := by
  have hprimitive : ∀ e ∈ respelledSpecifications.equals,
      ∃ t nullable, e.type = .of (.primitive t) nullable := by
    simp only [respelledSpecifications, List.forall_mem_cons]
    exact ⟨⟨_, _, rfl⟩, ⟨_, _, rfl⟩, by simp⟩
  obtain ⟨q, texts, hq, hdescribed, hparams⟩ :=
    buildIn_describedBy readAs_respelled hprimitive ⟨[⟨1, "NaMe", .string⟩]⟩
  have htexts : texts = ["NaMe eq 'O''Neil'", "Age eq null"] := by
    have hcomparisons : ["NaMe eq 'O''Neil'", "Age eq null"].map some = texts.map some :=
      hdescribed.comparisons
    exact (List.map_injective_iff.mpr (fun _ _ => Option.some.inj) hcomparisons).symm
  refine ⟨readAs_respelled, hprimitive, q, by rw [hq], ?_⟩
  rw [hparams, Query.paramsWith, hdescribed.top, hdescribed.skip, hdescribed.format,
    hdescribed.inlineCount, hdescribed.select, htexts]
  rfl

end QueryOptions

end RowQuery
