import RowQuery.Query.Update

/-!
Sequences of updates. An update that is refused leaves the query as it was, so
the filter of every query that is reached is Boolean. Only a filter that an
update sets itself can then be refused, and two updates in a row are one: each
option is what the later update that names it says. Updates come about in the
same way themselves, option by option from the last setting for each.
-/

namespace RowQuery

namespace Change

variable {α : Type} (first second : Change α) (old new value : α)

/-- The second change, or the first one where the second keeps what there is. -/
def followedBy : Change α :=
  match second with
  | .keep => first
  | .set value => .set value

def LeadsTo (change : Change α) : Prop :=
  (change = .keep → new = old) ∧ ∀ value, change = .set value → new = value

@[simp] theorem apply_keep : keep.apply old = old := rfl

@[simp] theorem apply_set : (set value).apply old = value := rfl

@[simp] theorem apply_followedBy :
    (first.followedBy second).apply old = second.apply (first.apply old) := by
  cases second <;> rfl

@[simp] theorem keep_followedBy : keep.followedBy first = first := by
  cases first <;> rfl

@[simp] theorem followedBy_keep : first.followedBy keep = first := rfl

theorem followedBy_assoc (third : Change α) :
    (first.followedBy second).followedBy third = first.followedBy (second.followedBy third) := by
  cases third <;> rfl

theorem leadsTo_apply : first.LeadsTo old (first.apply old) := by
  cases first <;> simp [LeadsTo]

def toList : Change α → List α
  | .keep => []
  | .set value => [value]

/-- The last of some changes that does not keep what there is. -/
def latest : List (Change α) → Change α
  | [] => .keep
  | change :: later => change.followedBy (latest later)

variable {changes : List (Change α)}

theorem latest_eq_keep_iff : latest changes = .keep ↔ ∀ change ∈ changes, change = .keep := by
  induction changes with
  | nil => simp [latest]
  | cons change later ih =>
    rw [latest, List.forall_mem_cons, ← ih]
    cases latest later <;> simp [followedBy]

/-- Of two runs of changes the later one wins where it says anything. -/
theorem latest_append (first second : List (Change α)) :
    latest (first ++ second) = (latest first).followedBy (latest second) := by
  induction first with
  | nil => simp [latest]
  | cons change rest ih => rw [List.cons_append, latest, latest, ih, followedBy_assoc]

/-- The latest change is the last one that sets a value. -/
theorem latest_eq_set_iff {value : α} :
    latest changes = .set value ↔ ∃ before after, changes = before ++ .set value :: after ∧
      ∀ change ∈ after, change = .keep := by
  constructor
  · intro h
    induction changes with
    | nil => cases h
    | cons change later ih =>
      rw [latest] at h
      cases hlater : latest later with
      | keep =>
        rw [hlater, followedBy_keep] at h
        exact ⟨[], later, by rw [h, List.nil_append], latest_eq_keep_iff.mp hlater⟩
      | set last =>
        rw [hlater] at h
        obtain ⟨before, after, rfl, hafter⟩ := ih (hlater.trans h)
        exact ⟨change :: before, after, rfl, hafter⟩
  · rintro ⟨before, after, rfl, hafter⟩
    rw [latest_append, latest, latest_eq_keep_iff.mpr hafter]
    rfl

end Change

def Query.Update.followedBy (first second : Update) : Update where
  filter := first.filter.followedBy second.filter
  orderBy := first.orderBy.followedBy second.orderBy
  top := first.top.followedBy second.top
  skip := first.skip.followedBy second.skip
  format := first.format.followedBy second.format
  inlineCount := first.inlineCount.followedBy second.inlineCount
  select := first.select.followedBy second.select

namespace Query.Update

variable (u v : Update)

def Setting.update (setting : Setting) : Update :=
  ({} : Update).set setting

/-- A setter is the update of one field after those before it. -/
theorem set_eq_followedBy (setting : Setting) : u.set setting = u.followedBy setting.update := by
  cases setting <;> rfl

theorem followedBy_assoc (w : Update) :
    (u.followedBy v).followedBy w = u.followedBy (v.followedBy w) := by
  simp [followedBy, Change.followedBy_assoc]

/-- Setters after an update do what the update of these setters does after it. -/
theorem foldl_set (settings : List Setting) :
    settings.foldl set u = u.followedBy (ofSettings settings) := by
  induction settings generalizing u with
  | nil => rfl
  | cons setting rest ih =>
    have hfirst : ofSettings (setting :: rest) = setting.update.followedBy (ofSettings rest) :=
      ih setting.update
    rw [List.foldl_cons, ih, hfirst, set_eq_followedBy, followedBy_assoc]

theorem ofSettings_append (first second : List Setting) :
    ofSettings (first ++ second) = (ofSettings first).followedBy (ofSettings second) := by
  rw [ofSettings, List.foldl_append, foldl_set]
  rfl

/-- Of the settings for an option the last one wins, whether it gives a value or clears the
option, and an option without any is kept. -/
theorem ofSettings_eq_latest (settings : List Setting) :
    ofSettings settings = {
      filter := .latest (settings.map fun s => s.update.filter)
      orderBy := .latest (settings.map fun s => s.update.orderBy)
      top := .latest (settings.map fun s => s.update.top)
      skip := .latest (settings.map fun s => s.update.skip)
      format := .latest (settings.map fun s => s.update.format)
      inlineCount := .latest (settings.map fun s => s.update.inlineCount)
      select := .latest (settings.map fun s => s.update.select) } := by
  induction settings with
  | nil => rfl
  | cons setting rest ih =>
    have hfirst : ofSettings (setting :: rest) = setting.update.followedBy (ofSettings rest) :=
      foldl_set setting.update rest
    rw [hfirst, ih]
    rfl

def settings : List Setting :=
  u.filter.toList.map (fun filter => filter.elim .clearFilter .filter) ++
    u.orderBy.toList.map .orderBy ++ u.top.toList.map (fun top => top.elim .clearTop .top) ++
    u.skip.toList.map .skip ++
    u.format.toList.map (fun format => format.elim .clearFormat .format) ++
    u.inlineCount.toList.map .inlineCount ++ u.select.toList.map .select

/-- Every update is made by settings. -/
theorem ofSettings_settings : ofSettings u.settings = u := by
  obtain ⟨filter, orderBy, top, skip, format, inlineCount, select⟩ := u
  have hfilter : ofSettings (filter.toList.map fun filter => filter.elim .clearFilter .filter) =
      { filter } := by
    rcases filter with _ | _ | _ <;> rfl
  have horder : ofSettings (orderBy.toList.map .orderBy) = { orderBy } := by cases orderBy <;> rfl
  have htop : ofSettings (top.toList.map fun top => top.elim .clearTop .top) = { top } := by
    rcases top with _ | _ | _ <;> rfl
  have hskip : ofSettings (skip.toList.map .skip) = { skip } := by cases skip <;> rfl
  have hformat : ofSettings (format.toList.map fun format => format.elim .clearFormat .format) =
      { format } := by
    rcases format with _ | _ | _ <;> rfl
  have hcount : ofSettings (inlineCount.toList.map .inlineCount) = { inlineCount } := by
    cases inlineCount <;> rfl
  have hselect : ofSettings (select.toList.map .select) = { select } := by cases select <;> rfl
  simp only [settings, ofSettings_append, hfilter, horder, htop, hskip, hformat, hcount, hselect]
  simp [followedBy]

end Query.Update

/-- Every option of the new query is the one that the update sets, or else that of the old query. -/
structure Query.Update.LeadsTo (u : Update) (old new : Query) : Prop where
  filter : u.filter.LeadsTo old.filter new.filter
  orderBy : u.orderBy.LeadsTo old.orderBy new.orderBy
  top : u.top.LeadsTo old.top new.top
  skip : u.skip.LeadsTo old.skip new.skip
  format : u.format.LeadsTo old.format new.format
  inlineCount : u.inlineCount.LeadsTo old.inlineCount new.inlineCount
  select : u.select.LeadsTo old.select new.select

namespace Query

variable {p q : Query} {u v : Update} {e : NodeError}

def HasBooleanFilter (q : Query) : Prop :=
  ∀ n, q.filter = some n → n.type = .boolean

def changed (q : Query) (u : Update) : Query where
  filter := u.filter.apply q.filter
  orderBy := u.orderBy.apply q.orderBy
  top := u.top.apply q.top
  skip := u.skip.apply q.skip
  format := u.format.apply q.format
  inlineCount := u.inlineCount.apply q.inlineCount
  select := u.select.apply q.select

theorem leadsTo_changed (q : Query) (u : Update) : u.LeadsTo q (q.changed u) where
  filter := u.filter.leadsTo_apply _
  orderBy := u.orderBy.leadsTo_apply _
  top := u.top.leadsTo_apply _
  skip := u.skip.leadsTo_apply _
  format := u.format.leadsTo_apply _
  inlineCount := u.inlineCount.leadsTo_apply _
  select := u.select.leadsTo_apply _

/-- One update after another changes a query as their combination does. -/
theorem changed_followedBy (q : Query) (u v : Update) :
    q.changed (u.followedBy v) = (q.changed u).changed v := by
  simp [changed, Update.followedBy]

theorem update_eq (q : Query) (u : Update) :
    q.update u =
      match ((q.changed u).filter.map Node.type).filter (· != .boolean) with
      | some type => .error (.filterType type)
      | none => .ok (q.changed u) := rfl

/-- An update is refused for the type of its filter, and for nothing else. -/
theorem update_cases (q : Query) (u : Update) :
    ((q.changed u).HasBooleanFilter ∧ q.update u = .ok (q.changed u)) ∨
      ∃ n, (q.changed u).filter = some n ∧ n.type ≠ .boolean ∧
        q.update u = .error (.filterType n.type) := by
  cases hfilter : (q.changed u).filter with
  | none => exact Or.inl ⟨by simp [HasBooleanFilter, hfilter], by simp [update_eq, hfilter]⟩
  | some n =>
    by_cases htype : n.type = .boolean
    · exact Or.inl ⟨by simp [HasBooleanFilter, hfilter, htype],
        by simp [update_eq, hfilter, Option.filter, htype]⟩
    · exact Or.inr ⟨n, rfl, htype, by simp [update_eq, hfilter, Option.filter, htype]⟩

theorem update_eq_ok_iff :
    q.update u = .ok p ↔ (q.changed u).HasBooleanFilter ∧ p = q.changed u := by
  rcases q.update_cases u with ⟨hboolean, h⟩ | ⟨n, hn, htype, h⟩
  · simp [h, hboolean, eq_comm]
  · simp [h, HasBooleanFilter, hn, htype]

/-- Where the filter that there is can stay, only one that the update sets is refused. -/
theorem HasBooleanFilter.update_eq_error_iff (hq : q.HasBooleanFilter) :
    q.update u = .error e ↔
      ∃ n, u.filter = .set (some n) ∧ n.type ≠ .boolean ∧ e = .filterType n.type := by
  rcases q.update_cases u with ⟨hboolean, h⟩ | ⟨n, hn, htype, h⟩
  · simp only [h, reduceCtorEq, false_iff]
    rintro ⟨n, hn, htype, -⟩
    exact htype (hboolean n (by simp [changed, hn]))
  · cases hfilter : u.filter with
    | keep => exact absurd (hq n (by simpa [changed, hfilter] using hn)) htype
    | set filter =>
      obtain rfl : filter = some n := by simpa [changed, hfilter] using hn
      simp [h, eq_comm, Ne.symm htype]

/-- The query after an update, which is the one before it if the update is refused. -/
def updated (q : Query) (u : Update) : Query :=
  match q.update u with
  | .ok p => p
  | .error _ => q

def updateAll (q : Query) (us : List Update) : Query :=
  us.foldl updated q

theorem HasBooleanFilter.updated (hq : q.HasBooleanFilter) (u : Update) :
    (q.updated u).HasBooleanFilter := by
  rcases q.update_cases u with ⟨hboolean, h⟩ | ⟨n, -, -, h⟩
  · simpa [Query.updated, h] using hboolean
  · simpa [Query.updated, h] using hq

/-- However often a query was updated, its filter is a truth value. -/
theorem HasBooleanFilter.updateAll (hq : q.HasBooleanFilter) (us : List Update) :
    (q.updateAll us).HasBooleanFilter := by
  induction us generalizing q with
  | nil => exact hq
  | cons u rest ih => exact ih (hq.updated u)

theorem hasBooleanFilter_empty : empty.HasBooleanFilter := by
  simp [HasBooleanFilter, empty]

/-- Two updates that succeed may be made as one. -/
theorem update_followedBy {r : Query} (hu : q.update u = .ok p) (hv : p.update v = .ok r) :
    q.update (u.followedBy v) = .ok r := by
  obtain ⟨-, rfl⟩ := update_eq_ok_iff.mp hu
  rw [update_eq_ok_iff, ← changed_followedBy] at hv
  exact update_eq_ok_iff.mpr hv

end Query

/-- Whatever updates were applied or refused before, the filter is Boolean, and an update is refused
exactly for the type of a filter that it sets itself. Otherwise it changes the options that it names
and no others, and together with the next one it amounts to one update. -/
theorem Query.update_of_updateAll_empty {us : List Update} {q : Query}
    (hq : empty.updateAll us = q) (u : Update) :
    (∀ n, q.filter = some n → n.type = .boolean) ∧
      (∀ e, q.update u = .error e ↔
        ∃ n, u.filter = .set (some n) ∧ n.type ≠ .boolean ∧ e = .filterType n.type) ∧
      (∀ p, q.update u = .ok p → u.LeadsTo q p) ∧
      ∀ p v r, q.update u = .ok p → p.update v = .ok r → q.update (u.followedBy v) = .ok r := by
  have hboolean : q.HasBooleanFilter := hq ▸ hasBooleanFilter_empty.updateAll us
  refine ⟨hboolean, fun e => hboolean.update_eq_error_iff, fun p hp => ?_,
    fun p v r hu hv => update_followedBy hu hv⟩
  obtain ⟨-, rfl⟩ := update_eq_ok_iff.mp hp
  exact q.leadsTo_changed u

def Node.age : Node := .member (.ofMember (.declared "Age" .int32))

def Node.isAdult : Node := .binary .ge .age (.constant (.int32 18) .int32)

def Query.Update.byAge : Update where
  filter := .set (some .age)
  top := .set none

def Query.pageUpdates : List Update :=
  [{ filter := .set (some .isAdult), top := .set (some 10) }, .byAge, { skip := .set 10 }]

def Query.secondPage : Query := ⟨some .isAdult, [], some 10, 10, none, .none, []⟩

/-- Clearing filter and limit and then setting another limit leaves the filter cleared. -/
theorem Query.update_of_updateAll_empty_secondPage :
    empty.updateAll pageUpdates = secondPage ∧
      (∀ n, secondPage.filter = some n → n.type = .boolean) ∧
      secondPage.update .byAge = .error (.filterType .int32) ∧
      Update.LeadsTo { filter := .set none, top := .set none } secondPage
        ⟨none, [], none, 10, none, .none, []⟩ ∧
      secondPage.update (Update.followedBy { filter := .set none, top := .set none }
        { top := .set (some 5) }) = .ok ⟨none, [], some 5, 10, none, .none, []⟩ := by
  have hpage : empty.updateAll pageUpdates = secondPage := rfl
  obtain ⟨hboolean, herror, -⟩ := Query.update_of_updateAll_empty hpage .byAge
  obtain ⟨-, -, hleads, htwo⟩ :=
    Query.update_of_updateAll_empty hpage { filter := .set none, top := .set none }
  exact ⟨hpage, hboolean, (herror _).mpr ⟨.age, rfl, by decide, rfl⟩, hleads _ rfl,
    htwo _ { top := .set (some 5) } _ rfl rfl⟩

end RowQuery
