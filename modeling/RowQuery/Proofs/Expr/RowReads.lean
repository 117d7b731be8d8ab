import Mathlib.Data.Finset.Card
import Mathlib.Data.List.Perm.Basic
import RowQuery.Node.Text
import RowQuery.Proofs.Expr.Nodes
import RowQuery.Proofs.Node.Typing

/-!
Reads of rows in expressions and in the nodes that stand for them. A parameter of
an expression that has a node is the root of a member path, and the node has the
paths without their roots: whatever the parameters are called, the node is the
same. Reads of two rows are therefore told apart by their paths only.
-/

namespace RowQuery

namespace Expr

/-- The member path from a parameter, with the name of the parameter. -/
def rootedPath? : Expr → Option (String × MemberPath)
  | .member (some (.parameter name _)) m => some (name, .ofMember m)
  | .member (some receiver) m => receiver.rootedPath?.map fun (name, p) => (name, p.extend m)
  | _ => none

end Expr

mutual

/-- The member paths that are read from parameters, in the order of their occurrences. -/
def Expr.rowReads : Expr → List (String × MemberPath)
  | .parameter _ _ | .constant _ _ | .captured _ _ _ => []
  | .call _ receiver args => Expr.receiverRowReads receiver ++ Expr.allRowReads args
  | .member receiver m =>
    match (Expr.member receiver m).rootedPath? with
    | some read => [read]
    | none => Expr.receiverRowReads receiver
  | .binary _ left right => left.rowReads ++ right.rowReads
  | .unary _ operand => operand.rowReads
  | .convert operand _ => operand.rowReads

def Expr.receiverRowReads : Option Expr → List (String × MemberPath)
  | none => []
  | some e => e.rowReads

def Expr.allRowReads : List Expr → List (String × MemberPath)
  | [] => []
  | e :: rest => e.rowReads ++ Expr.allRowReads rest

end

mutual

def Expr.renamed (rename : String → String) : Expr → Expr
  | .parameter name type => .parameter (rename name) type
  | .constant v type => .constant v type
  | .captured name v type => .captured name v type
  | .call method receiver args =>
    .call method (Expr.receiverRenamed rename receiver) (Expr.allRenamed rename args)
  | .member receiver m => .member (Expr.receiverRenamed rename receiver) m
  | .binary op left right => .binary op (left.renamed rename) (right.renamed rename)
  | .unary op operand => .unary op (operand.renamed rename)
  | .convert operand type => .convert (operand.renamed rename) type

def Expr.receiverRenamed (rename : String → String) : Option Expr → Option Expr
  | none => none
  | some e => some (e.renamed rename)

def Expr.allRenamed (rename : String → String) : List Expr → List Expr
  | [] => []
  | e :: rest => e.renamed rename :: Expr.allRenamed rename rest

end

mutual

def Node.paths : Node → List MemberPath
  | .binary _ left right => left.paths ++ right.paths
  | .unary _ operand => operand.paths
  | .call _ args _ => Node.allPaths args
  | .constant _ _ => []
  | .member path => [path]
  | .convert operand _ => operand.paths
  | .sortKey key => key.paths
  | .selectColumn column => column.path.toList
  | .query q => q.paths

def Node.allPaths : List Node → List MemberPath
  | [] => []
  | n :: rest => n.paths ++ Node.allPaths rest

def SortKey.paths : SortKey → List MemberPath
  | ⟨operand, _⟩ => operand.paths

def SortKey.allPaths : List SortKey → List MemberPath
  | [] => []
  | k :: rest => k.paths ++ SortKey.allPaths rest

def Node.filterPaths : Option Node → List MemberPath
  | none => []
  | some n => n.paths

def Query.paths : Query → List MemberPath
  | ⟨filter, orderBy, _, _, _, _, select⟩ =>
    Node.filterPaths filter ++ SortKey.allPaths orderBy ++
      select.flatMap fun column => column.path.toList

end

namespace Expr

def isOwnerless : Expr → Bool
  | .member none _ => true
  | _ => false

/-- Whether reads of different rows have the same path, so that a node does not tell them apart. -/
def MergesRows (e : Expr) : Prop :=
  ∃ r ∈ e.rowReads, ∃ s ∈ e.rowReads, r.1 ≠ s.1 ∧ r.2 = s.2

/-- A path in which every member is read from something starts at a parameter. -/
theorem exists_rootedPath? {p : MemberPath} (e : Expr)
    (howned : ∀ d ∈ e.nodes, d.isOwnerless = false) (h : e.toPath = .ok p) :
    ∃ name, e.rootedPath? = some (name, p) ∧ e.parameters = [name] := by
  cases e with
  | member receiver m =>
    cases receiver with
    | none => simp [isOwnerless, nodes] at howned
    | some owner =>
      cases owner with
      | parameter name type =>
        cases h
        exact ⟨name, rfl, rfl⟩
      | member receiver' m' =>
        simp only [nodes, receiverNodes, List.forall_mem_cons] at howned
        obtain ⟨parent, hparent, h⟩ := bind_eq_ok_iff.mp h
        cases h
        obtain ⟨name, hrooted, hparameters⟩ :=
          exists_rootedPath? (.member receiver' m') (List.forall_mem_cons.mpr howned.2) hparent
        refine ⟨name, ?_, ?_⟩
        · simp only [rootedPath?] at hrooted ⊢
          rw [hrooted]
          rfl
        · rw [parameters_member, receiverParameters_some, hparameters]
      | _ => cases h
  | _ => cases h

/-- A path does not keep the name of the parameter that it starts from. -/
theorem toPath_renamed (rename : String → String) {p : MemberPath} (e : Expr)
    (h : e.toPath = .ok p) : (e.renamed rename).toPath = .ok p := by
  cases e with
  | member receiver m =>
    cases receiver with
    | none => exact h
    | some owner =>
      cases owner with
      | parameter name type => exact h
      | member receiver' m' =>
        obtain ⟨parent, hparent, h⟩ := bind_eq_ok_iff.mp h
        have hrenamed := toPath_renamed rename (.member receiver' m') hparent
        exact bind_eq_ok_iff.mpr ⟨parent, hrenamed, h⟩
      | _ => cases h
  | _ => cases h

end Expr

namespace Node

variable {a l r : Node} {args : List Node} {op : BinaryOp}

/-- Operands are converted, but neither left out nor moved. -/
theorem paths_ofOperation (h : ofOperation op l r = .ok a) : a.paths = l.paths ++ r.paths := by
  rcases ofOperation_cases h with ⟨-, rfl⟩ | ⟨-, -, rfl⟩ | ⟨-, -, rfl⟩ <;> simp only [paths]

theorem paths_ofConversion {type : EdmType} (h : ofConversion l type = .ok a) :
    a.paths = l.paths := by
  rcases ofConversion_cases h with ⟨-, rfl⟩ | ⟨-, rfl⟩
  · rfl
  · simp only [paths]

theorem paths_ofConstant {v : Value} {type : ColumnType} (h : ofConstant v type = .ok a) :
    a.paths = [] := by
  obtain ⟨t, rfl, -⟩ := ofConstant_cases h
  simp only [paths]

/-- A function takes the receiver of a method and its arguments, though not always in this order. -/
theorem paths_ofMethod? {name : String} (h : ofMethod? name r args = some a) :
    a.paths.Perm (r.paths ++ allPaths args) := by
  unfold ofMethod? at h
  split at h <;> cases h <;> simp only [paths, allPaths, List.append_nil]
  case h_3 arg _ => exact List.perm_append_comm
  all_goals exact List.Perm.refl _

end Node

mutual

/-- The parameters of an expression that has a node are the roots of the paths of the node. -/
theorem Expr.paths_toNode {n : Node} (e : Expr) (howned : ∀ d ∈ e.nodes, d.isOwnerless = false)
    (h : e.toNode = .ok n) :
    e.parameters = e.rowReads.map Prod.fst ∧ n.paths.Perm (e.rowReads.map Prod.snd) := by
  cases e with
  | parameter name type => cases h
  | constant v type | captured name v type =>
    rw [Node.paths_ofConstant h]
    exact ⟨rfl, .nil⟩
  | call method receiver args =>
    cases method with
    | rowGet type => cases h
    | named name type =>
      simp only [Expr.nodes, List.forall_mem_cons, List.forall_mem_append] at howned
      obtain ⟨r, hr, h⟩ := bind_eq_ok_iff.mp h
      obtain ⟨ns, hns, h⟩ := bind_eq_ok_iff.mp h
      obtain ⟨hroots, hpaths⟩ := Expr.paths_receiverToNode receiver howned.2.1 hr
      obtain ⟨hargRoots, hargPaths⟩ := Expr.paths_toNodes args howned.2.2 hns
      split at h
      · rename_i a ha
        cases h
        refine ⟨?_, (Node.paths_ofMethod? ha).trans ?_⟩
        · simp [Expr.rowReads, hroots, hargRoots]
        · simpa [Expr.rowReads] using hpaths.append hargPaths
      · cases h
  | member receiver m =>
    obtain ⟨p, hp, h⟩ := bind_eq_ok_iff.mp h
    cases h
    obtain ⟨name, hrooted, hparameters⟩ :=
      Expr.exists_rootedPath? (.member receiver m) howned hp
    simp [hparameters, Expr.rowReads, hrooted, Node.paths]
  | binary op left right =>
    simp only [Expr.nodes, List.forall_mem_cons, List.forall_mem_append] at howned
    obtain ⟨l, hl, h⟩ := bind_eq_ok_iff.mp h
    obtain ⟨r, hr, h⟩ := bind_eq_ok_iff.mp h
    obtain ⟨hleftRoots, hleft⟩ := Expr.paths_toNode left howned.2.1 hl
    obtain ⟨hrightRoots, hright⟩ := Expr.paths_toNode right howned.2.2 hr
    rw [Node.paths_ofOperation h]
    constructor
    · simp [Expr.rowReads, hleftRoots, hrightRoots]
    · simpa [Expr.rowReads] using hleft.append hright
  | unary op operand =>
    simp only [Expr.nodes, List.forall_mem_cons] at howned
    obtain ⟨a, ha, h⟩ := bind_eq_ok_iff.mp h
    cases h
    have hoperand := Expr.paths_toNode operand howned.2 ha
    simpa [Expr.rowReads, Node.paths] using hoperand
  | convert operand type =>
    simp only [Expr.nodes, List.forall_mem_cons] at howned
    obtain ⟨a, ha, h⟩ := bind_eq_ok_iff.mp h
    have hoperand := Expr.paths_toNode operand howned.2 ha
    rw [Node.paths_ofConversion h]
    simpa [Expr.rowReads] using hoperand

theorem Expr.paths_receiverToNode {n : Node} {call : String} (receiver : Option Expr)
    (howned : ∀ d ∈ Expr.receiverNodes receiver, d.isOwnerless = false)
    (h : Expr.receiverToNode call receiver = .ok n) :
    Expr.receiverParameters receiver = (Expr.receiverRowReads receiver).map Prod.fst ∧
      n.paths.Perm ((Expr.receiverRowReads receiver).map Prod.snd) := by
  cases receiver with
  | none => cases h
  | some e => exact Expr.paths_toNode e howned h

theorem Expr.paths_toNodes {ns : List Node} (es : List Expr)
    (howned : ∀ d ∈ Expr.allNodes es, d.isOwnerless = false) (h : Expr.toNodes es = .ok ns) :
    Expr.allParameters es = (Expr.allRowReads es).map Prod.fst ∧
      (Node.allPaths ns).Perm ((Expr.allRowReads es).map Prod.snd) := by
  cases es with
  | nil =>
    cases h
    simp [Expr.allRowReads, Node.allPaths]
  | cons e rest =>
    simp only [Expr.allNodes, List.forall_mem_append] at howned
    obtain ⟨n, hn, h⟩ := bind_eq_ok_iff.mp h
    obtain ⟨ns, hns, h⟩ := bind_eq_ok_iff.mp h
    cases h
    obtain ⟨hroots, hpaths⟩ := Expr.paths_toNode e howned.1 hn
    obtain ⟨hrestRoots, hrest⟩ := Expr.paths_toNodes rest howned.2 hns
    constructor
    · simp [Expr.allRowReads, hroots, hrestRoots]
    · simpa [Expr.allRowReads, Node.allPaths] using hpaths.append hrest

end

mutual

/-- The node does not show what the parameters are called. -/
theorem Expr.toNode_renamed (rename : String → String) {n : Node} (e : Expr)
    (h : e.toNode = .ok n) : (e.renamed rename).toNode = .ok n := by
  cases e with
  | parameter name type => cases h
  | constant v type | captured name v type => exact h
  | call method receiver args =>
    cases method with
    | rowGet type => cases h
    | named name type =>
      obtain ⟨r, hr, h⟩ := bind_eq_ok_iff.mp h
      obtain ⟨ns, hns, h⟩ := bind_eq_ok_iff.mp h
      have hreceiver := Expr.receiverToNode_renamed rename
        (Expr.call (.named name type) receiver args).text
        ((Expr.call (.named name type) receiver args).renamed rename).text receiver hr
      have hargs := Expr.toNodes_renamed rename args hns
      refine bind_eq_ok_iff.mpr ⟨r, hreceiver, bind_eq_ok_iff.mpr ⟨ns, hargs, ?_⟩⟩
      split at h
      · rename_i a ha
        cases h
        rfl
      · cases h
  | member receiver m =>
    obtain ⟨p, hp, h⟩ := bind_eq_ok_iff.mp h
    exact bind_eq_ok_iff.mpr ⟨p, Expr.toPath_renamed rename (.member receiver m) hp, h⟩
  | binary op left right =>
    obtain ⟨l, hl, h⟩ := bind_eq_ok_iff.mp h
    obtain ⟨r, hr, h⟩ := bind_eq_ok_iff.mp h
    exact bind_eq_ok_iff.mpr ⟨l, Expr.toNode_renamed rename left hl,
      bind_eq_ok_iff.mpr ⟨r, Expr.toNode_renamed rename right hr, h⟩⟩
  | unary op operand =>
    obtain ⟨a, ha, h⟩ := bind_eq_ok_iff.mp h
    exact bind_eq_ok_iff.mpr ⟨a, Expr.toNode_renamed rename operand ha, h⟩
  | convert operand type =>
    obtain ⟨a, ha, h⟩ := bind_eq_ok_iff.mp h
    exact bind_eq_ok_iff.mpr ⟨a, Expr.toNode_renamed rename operand ha, h⟩

theorem Expr.receiverToNode_renamed (rename : String → String) (call call' : String) {n : Node}
    (receiver : Option Expr) (h : Expr.receiverToNode call receiver = .ok n) :
    Expr.receiverToNode call' (Expr.receiverRenamed rename receiver) = .ok n := by
  cases receiver with
  | none => cases h
  | some e => exact Expr.toNode_renamed rename e h

theorem Expr.toNodes_renamed (rename : String → String) {ns : List Node} (es : List Expr)
    (h : Expr.toNodes es = .ok ns) : Expr.toNodes (Expr.allRenamed rename es) = .ok ns := by
  cases es with
  | nil => exact h
  | cons e rest =>
    obtain ⟨n, hn, h⟩ := bind_eq_ok_iff.mp h
    obtain ⟨ns, hns, h⟩ := bind_eq_ok_iff.mp h
    exact bind_eq_ok_iff.mpr ⟨n, Expr.toNode_renamed rename e hn,
      bind_eq_ok_iff.mpr ⟨ns, Expr.toNodes_renamed rename rest hns, h⟩⟩

end

namespace Expr

/-- Reads are merged exactly if they have fewer different paths than there are different reads. -/
theorem mergesRows_iff (e : Expr) :
    e.MergesRows ↔ (e.rowReads.toFinset.image Prod.snd).card < e.rowReads.toFinset.card := by
  have hle : (e.rowReads.toFinset.image Prod.snd).card ≤ e.rowReads.toFinset.card :=
    Finset.card_image_le
  rw [hle.lt_iff_ne, Ne, Finset.card_image_iff, Set.InjOn]
  constructor
  · rintro ⟨r, hr, s, hs, hne, hpath⟩ hinjective
    exact hne (congrArg Prod.fst (hinjective (by simpa using hr) (by simpa using hs) hpath))
  · intro hinjective
    by_contra hmerges
    refine hinjective fun r hr s hs hpath => ?_
    by_contra hne
    refine hmerges ⟨r, by simpa using hr, s, by simpa using hs, fun hname => ?_, hpath⟩
    exact hne (Prod.ext hname hpath)

/-- In an expression that has a node, every parameter is what a member path is read from, and the
node has these paths without the parameters, whatever they are called. Reads of different rows are
merged where their paths are the same, so that the node has fewer different paths than there are
different reads, and none are if all parameters have one name. -/
theorem toNode_rowReads (e : Expr) (n : Node) (howned : ∀ d ∈ e.nodes, d.isOwnerless = false)
    (h : e.toNode = .ok n) :
    e.parameters = e.rowReads.map Prod.fst ∧
      n.paths.Perm (e.rowReads.map Prod.snd) ∧
      (∀ rename, (e.renamed rename).toNode = .ok n) ∧
      (e.MergesRows ↔ n.paths.toFinset.card < e.rowReads.toFinset.card) ∧
      ((∀ x ∈ e.parameters, ∀ y ∈ e.parameters, x = y) →
        ¬e.MergesRows ∧ n.paths.toFinset.card = e.rowReads.toFinset.card) := by
  obtain ⟨hroots, hpaths⟩ := paths_toNode e howned h
  have hcard : n.paths.toFinset = e.rowReads.toFinset.image Prod.snd := by
    rw [List.toFinset_eq_of_perm _ _ hpaths]
    ext p
    simp
  have hmerges : e.MergesRows ↔ n.paths.toFinset.card < e.rowReads.toFinset.card := by
    rw [hcard, mergesRows_iff]
  refine ⟨hroots, hpaths, fun rename => toNode_renamed rename e h, hmerges, fun hone => ?_⟩
  have hapart : ¬e.MergesRows := by
    rintro ⟨r, hr, s, hs, hne, -⟩
    apply hne
    apply hone
    · rw [hroots]
      exact List.mem_map_of_mem hr
    · rw [hroots]
      exact List.mem_map_of_mem hs
  have hle : n.paths.toFinset.card ≤ e.rowReads.toFinset.card := by
    rw [hcard]
    exact Finset.card_image_le
  exact ⟨hapart, le_antisymm hle (not_lt.mp (mt hmerges.mpr hapart))⟩

def adultInCity : Expr :=
  .binary .and
    (.call (.named "contains" .boolean)
      (some (.member (some (.member (some (.row "r")) (.declared "Home" .complex)))
        (.declared "City" .string)))
      [.member (some (.row "r")) (.declared "Search" .string)])
    (.binary .ge (.member (some (.row "r")) (.declared "Age" .int32)) (.ofValue (.int64 18)))

def adultInCityNode : Node :=
  .binary .and
    (.call .substringOf
      [.member (.ofMember (.declared "Search" .string)),
        .member ⟨[.declared "Home" .complex], .declared "City" .string⟩] .boolean)
    (.binary .ge (.convert (.member (.ofMember (.declared "Age" .int32))) .int64)
      (.constant (.int64 18) .int64))

theorem toNode_rowReads_adultInCity :
    (∀ d ∈ adultInCity.nodes, d.isOwnerless = false) ∧
      adultInCity.toNode = .ok adultInCityNode ∧
      adultInCity.parameters = ["r", "r", "r"] ∧
      (adultInCity.renamed fun _ => "someone").toNode = .ok adultInCityNode ∧
      ¬adultInCity.MergesRows := by
  have hmethod : StringMethod.ofName? "contains" = some .contains := by decide +kernel
  have howned : ∀ d ∈ adultInCity.nodes, d.isOwnerless = false := by decide
  have hnode : adultInCity.toNode = .ok adultInCityNode := by
    simp only [adultInCity, toNode, toNodes, receiverToNode, Node.ofMethod?]
    simp only [hmethod]
    rfl
  have hparameters : adultInCity.parameters = ["r", "r", "r"] := rfl
  obtain ⟨-, -, hrenamed, -, hmerges⟩ := toNode_rowReads adultInCity adultInCityNode howned hnode
  exact ⟨howned, hnode, hparameters, hrenamed _, (hmerges (by decide)).1⟩

def olderThan : Expr :=
  .binary .gt (.member (some (.row "a")) (.declared "Age" .int32))
    (.member (some (.row "b")) (.declared "Age" .int32))

def parentAndChild : Bindings :=
  (Bindings.empty.bind "a" (.row (.ofColumns [("Age", .int32 41)]))).bind "b"
    (.row (.ofColumns [("Age", .int32 9)]))

/-- Parameters of an expression that has a node may differ. The reads of both rows have become one
then: what is true of the rows is false of the reads of any one row, which have the same node. -/
theorem mergesRows_olderThan :
    (∀ d ∈ olderThan.nodes, d.isOwnerless = false) ∧
      (∃ n, olderThan.toNode = .ok n ∧ (olderThan.renamed fun _ => "a").toNode = .ok n ∧
        n.text? = some "Age gt Age") ∧
      ¬(∀ x ∈ olderThan.parameters, ∀ y ∈ olderThan.parameters, x = y) ∧
      olderThan.MergesRows ∧
      olderThan.evaluate parentAndChild = .ok (.boolean true) ∧
      (olderThan.renamed fun _ => "a").evaluate parentAndChild = .ok (.boolean false) := by
  refine ⟨by decide, ⟨_, rfl, rfl, by decide⟩, by decide, ?_, rfl, rfl⟩
  exact ⟨("a", .ofMember (.declared "Age" .int32)), List.mem_cons_self,
    ("b", .ofMember (.declared "Age" .int32)), List.mem_cons_of_mem _ List.mem_cons_self,
    by decide, rfl⟩

end Expr

end RowQuery
