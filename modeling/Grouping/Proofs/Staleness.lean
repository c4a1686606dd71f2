import Grouping.Proofs.Reachability

/-! # Lists that go stale

Lists of relations are cached under the tags of their scopes. A write reports the tags of the record
that it was given, so it makes every list stale that changes, unless the row it replaces or removes
was in a scope that the record is not in.
-/

namespace Grouping

inductive ListScope where
  | group (group : Int64)
  | target (target : EntityId)
  | plugin (plugin : String)
  | pluginInGroup (plugin : String) (group : Int64)
  | pluginForTarget (plugin : String) (target : EntityId)
  deriving DecidableEq

namespace ListScope

def covers : ListScope → Relation → Bool
  | group g, r => r.group = g
  | target k, r => r.key.id = k
  | plugin p, r => r.plugin = p
  | pluginInGroup p g, r => r.plugin = p && r.group = g
  | pluginForTarget p k, r => r.plugin = p && r.key.id = k

def tag : ListScope → String
  | group g => CacheTag.ofGroup g
  | target k => CacheTag.ofTarget k
  | plugin p => CacheTag.ofPlugin p
  | pluginInGroup p g => CacheTag.ofPluginInGroup p g
  | pluginForTarget p k => CacheTag.ofPluginForTarget p k

/-- A change of a relation makes stale every list in which it appears. -/
theorem tag_mem_stale {scope : ListScope} {r : Relation} (h : scope.covers r = true) :
    scope.tag ∈ CacheTag.stale r := by
  rw [CacheTag.mem_stale]
  cases scope with
  | group g =>
    obtain rfl : r.group = g := by simpa [covers] using h
    simp [tag]
  | target k =>
    obtain rfl : r.key.id = k := by simpa [covers] using h
    simp [tag]
  | plugin p =>
    obtain rfl : r.plugin = p := by simpa [covers] using h
    simp [tag]
  | pluginInGroup p g =>
    obtain ⟨rfl, rfl⟩ : r.plugin = p ∧ r.group = g := by simpa [covers] using h
    simp [tag]
  | pluginForTarget p k =>
    obtain ⟨rfl, rfl⟩ : r.plugin = p ∧ r.key.id = k := by simpa [covers] using h
    simp [tag]

end ListScope

theorem CacheTag.ofRelation_mem_stale {r : Relation} {id : Int} (h : r.id = some id) :
    ofRelation id ∈ stale r :=
  mem_stale.mpr (.inl ⟨id, h, rfl⟩)

inductive RelationWrite where
  | save (r : Relation)
  | saveValidated (r : Relation)
  | delete (r : Relation)
  | deleteByGroup (group : Entity)
  | deleteByEntity (e : Entity)
  | deleteByContentType (contentType : String)

namespace RelationWrite

def record? : RelationWrite → Option Relation
  | save r | saveValidated r | delete r => some r
  | deleteByGroup _ | deleteByEntity _ | deleteByContentType _ => none

/-- The row that the record stands for is in a scope whose tag is not among the record's. -/
def Overlooks (w : RelationWrite) (s : Store) (scope : ListScope) : Prop :=
  ∃ r id old, w.record? = some r ∧ r.id = some id ∧ s.load id = some old ∧
    scope.covers old = true ∧ scope.tag ∉ CacheTag.stale r

end RelationWrite

namespace Store

def write (s : Store) : RelationWrite → Store
  | .save r => (s.save r).2
  | .saveValidated r => (s.saveValidated r).2
  | .delete r => (s.delete r).2
  | .deleteByGroup group => (s.deleteByGroup group).2
  | .deleteByEntity e => (s.deleteByEntity e).2
  | .deleteByContentType contentType => (s.deleteByContentType contentType).2

/-- The tags that a write reports. -/
def sent (s : Store) (w : RelationWrite) : List String :=
  (s.write w).staleTags.drop s.staleTags.length

def listed (s : Store) (scope : ListScope) : List Relation :=
  s.relations.relations.filter scope.covers

variable {s s' s'' : Store} {tags tags' : List String}

theorem sent_eq {w : RelationWrite} (h : (s.write w).staleTags = s.staleTags ++ tags) :
    s.sent w = tags := by
  unfold sent
  rw [h, List.drop_left]

theorem mem_listed_iff {scope : ListScope} {r : Relation} :
    r ∈ s.listed scope ↔ (∃ id, s.load id = some r) ∧ scope.covers r = true := by
  unfold listed
  rw [List.mem_filter, RelationTable.mem_relations_iff]
  rfl

/-! ## One row -/

/-- The second store differs from the first in one row, which is cleared or set to `r`, and in that
`r` was reported. -/
structure ChangesRow (s s' : Store) (id : Int) (r : Relation) : Prop where
  id_eq : r.id = some id
  row : ∀ new, s'.load id = some new → new = r
  others : ∀ j, j ≠ id → s'.load j = s.load j
  staleTags : s'.staleTags = s.staleTags ++ CacheTag.stale r

variable {id : Int} {r : Relation}

theorem ChangesRow.ofRelation_mem (h : s.ChangesRow s' id r) {j : Int}
    (hj : s'.load j ≠ s.load j) : CacheTag.ofRelation j ∈ CacheTag.stale r := by
  have hid : j = id := by
    by_contra hne
    exact hj (h.others j hne)
  exact CacheTag.ofRelation_mem_stale (hid ▸ h.id_eq)

/-- A list changes without being reported exactly if the old row was in its scope and `r` does not
have its tag. -/
theorem ChangesRow.listed_ne_iff (h : s.ChangesRow s' id r) (hs : s.Sound) (hs' : s'.Sound)
    (scope : ListScope) (htag : scope.tag ∉ CacheTag.stale r) :
    s'.listed scope ≠ s.listed scope ↔ ∃ old, s.load id = some old ∧ scope.covers old = true := by
  have hr : scope.covers r = false := by
    rw [Bool.eq_false_iff]
    intro hcovers
    exact htag (ListScope.tag_mem_stale hcovers)
  have hnew : (s'.load id).filter scope.covers = none := by
    rw [Option.filter_eq_none_iff]
    intro new hload
    rw [h.row new hload, hr]
    exact Bool.false_ne_true
  constructor
  · intro hne
    by_contra hold
    -- neither table has a row of the scope under `id`, so the lists agree row by row
    apply hne
    refine RelationTable.Coherent.filter_eq hs'.relations hs.relations fun j => ?_
    change (s'.load j).filter _ = (s.load j).filter _
    by_cases hj : j = id
    · rw [hj, hnew, eq_comm, Option.filter_eq_none_iff]
      intro old hload hcovers
      exact hold ⟨old, hload, hcovers⟩
    · rw [h.others j hj]
  · rintro ⟨old, hload, hcovers⟩ heq
    have hmem : old ∈ s'.listed scope := by
      rw [heq]
      exact mem_listed_iff.mpr ⟨⟨id, hload⟩, hcovers⟩
    obtain ⟨⟨j, hj⟩, -⟩ := mem_listed_iff.mp hmem
    have hji : j = id := by
      have hid := hs'.relations.id_eq hj
      rw [hs.relations.id_eq hload] at hid
      exact (Option.some.inj hid).symm
    rw [hji] at hj
    rw [hj, Option.filter_eq_none_iff] at hnew
    exact hnew old rfl hcovers

theorem changesRow_of_load {o : Option Relation} (hid : r.id = some id)
    (ho : ∀ new, o = some new → new = r)
    (hload : ∀ j, s'.load j = if id = j then o else s.load j)
    (htags : s'.staleTags = s.staleTags ++ CacheTag.stale r) : s.ChangesRow s' id r := by
  refine ⟨hid, ?_, ?_, htags⟩
  · intro new hnew
    rw [hload, if_pos rfl] at hnew
    exact ho new hnew
  · intro j hj
    rw [hload, if_neg (Ne.symm hj)]

/-- A save sets a new row or the row with the record's id; either way it reports the record's tags. -/
theorem changesRow_of_writes (hs : s.Sound) {r' : Relation} {t : RelationTable}
    (hw : s.Writes r r' t) (hrel : s'.relations = t)
    (htags : s'.staleTags = s.staleTags ++ CacheTag.stale r') :
    ∃ id, s.ChangesRow s' id r' ∧
      (r.id = none ∧ s.load id = none ∨ r.id = some id ∧ CacheTag.stale r' = CacheTag.stale r) := by
  have hnew : ∀ new, some r' = some new → new = r' := fun _ h => (Option.some.inj h).symm
  cases hw with
  | add i hid hi =>
    refine ⟨s.relations.lastId + 1, ?_, .inl ⟨hid, hs.relations.get?_next⟩⟩
    refine changesRow_of_load rfl hnew (fun j => ?_) htags
    unfold load
    rw [hrel, RelationTable.get?_insert]
  | rewrite i id old hid hold =>
    refine ⟨id, ?_, .inr ⟨hid, rfl⟩⟩
    have hid' : (s.rewritten i r old).id = some id := hid
    refine changesRow_of_load hid' hnew (fun j => ?_) htags
    unfold load
    rw [hrel, RelationTable.get?_rewritten]

theorem load_delete {old : Relation} (hid : r.id = some id) (hold : s.load id = some old)
    (j : Int) : (s.delete r).2.load j = if id = j then none else s.load j := by
  rcases s.delete_cases r with ⟨-, hnone⟩ | ⟨id', old', hid', -, hd⟩
  · rw [hnone id hid] at hold
    cases hold
  · rw [hid] at hid'
    cases hid'
    rw [hd]
    exact RelationTable.get?_delete s.relations id j

theorem changesRow_delete (s : Store) (r : Relation) :
    (s.delete r).2 = s ∨
      ∃ id old, r.id = some id ∧ s.load id = some old ∧ s.ChangesRow (s.delete r).2 id r := by
  rcases s.delete_cases r with ⟨hd, -⟩ | ⟨id, old, hid, hold, hd⟩
  · left
    rw [hd]
  · right
    have hcleared : ∀ new, none = some new → new = r := fun _ h => by cases h
    refine ⟨id, old, hid, hold, changesRow_of_load hid hcleared (load_delete hid hold) ?_⟩
    rw [hd]
    rfl

/-! ## Many rows -/

/-- All that differs between the stores was reported. -/
structure Reported (s s' : Store) (tags : List String) : Prop where
  staleTags : s'.staleTags = s.staleTags ++ tags
  row : ∀ id, s'.load id ≠ s.load id → CacheTag.ofRelation id ∈ tags
  list : ∀ scope, s'.listed scope ≠ s.listed scope → scope.tag ∈ tags

theorem Reported.refl (s : Store) : s.Reported s [] where
  staleTags := (List.append_nil _).symm
  row _ h := absurd rfl h
  list _ h := absurd rfl h

theorem Reported.trans (h : s.Reported s' tags) (h' : s'.Reported s'' tags') :
    s.Reported s'' (tags ++ tags') where
  staleTags := by rw [h'.staleTags, h.staleTags, List.append_assoc]
  row id hne := by
    rw [List.mem_append]
    by_cases hid : s'.load id = s.load id
    · exact .inr (h'.row id (hid ▸ hne))
    · exact .inl (h.row id hid)
  list scope hne := by
    rw [List.mem_append]
    by_cases hscope : s'.listed scope = s.listed scope
    · exact .inr (h'.list scope (hscope ▸ hne))
    · exact .inl (h.list scope hscope)

theorem ChangesRow.reported (h : s.ChangesRow s' id r) (hs : s.Sound) (hs' : s'.Sound)
    (hold : ∀ old, s.load id = some old → old = r) : s.Reported s' (CacheTag.stale r) where
  staleTags := h.staleTags
  row _ hj := h.ofRelation_mem hj
  list scope hne := by
    by_contra htag
    obtain ⟨old, hload, hcovers⟩ := (h.listed_ne_iff hs hs' scope htag).mp hne
    rw [hold old hload] at hcovers
    exact htag (ListScope.tag_mem_stale hcovers)

def IsRow (s : Store) (r : Relation) : Prop :=
  ∀ id old, r.id = some id → s.load id = some old → old = r

theorem mem_select_iff (hs : s.Sound) {q : RelationQuery} :
    r ∈ s.relations.select q ↔ (∃ id, s.load id = some r) ∧ q.holds r = true := by
  rw [hs.relations.select_eq_scan, RelationTable.scan, List.mem_filter,
    RelationTable.mem_relations_iff]
  rfl

theorem isRow_of_mem_select (hs : s.Sound) {q : RelationQuery} (h : r ∈ s.relations.select q) :
    s.IsRow r := by
  obtain ⟨⟨id, hload⟩, -⟩ := (mem_select_iff hs).mp h
  intro id' old hid' hold
  rw [hs.relations.id_eq hload] at hid'
  cases hid'
  exact Option.some.inj (hold.symm.trans hload)

theorem IsRow.delete (h : s.IsRow r) (r₀ : Relation) : (s.delete r₀).2.IsRow r := by
  rcases s.delete_cases r₀ with ⟨hd, -⟩ | ⟨id, old, hid, hold, -⟩
  · rw [hd]
    exact h
  · intro id' old' hid' hold'
    rw [load_delete hid hold] at hold'
    split at hold'
    · cases hold'
    · exact h id' old' hid' hold'

theorem reported_delete (hs : s.Reachable) (h : s.IsRow r) :
    ∃ tags, s.Reported (s.delete r).2 tags := by
  rcases s.changesRow_delete r with hd | ⟨id, old, hid, hold, hrow⟩
  · rw [hd]
    exact ⟨[], .refl s⟩
  · exact ⟨_, hrow.reported hs.sound (hs.delete r).sound fun old => h id old hid⟩

theorem reported_deleteAll {rs : List Relation} (hs : s.Reachable) (h : ∀ r ∈ rs, s.IsRow r) :
    ∃ tags, s.Reported (s.deleteAll rs).2 tags := by
  induction rs generalizing s with
  | nil => exact ⟨[], .refl s⟩
  | cons r rs ih =>
    -- the first deletion only clears a row, so that the other records still are the stored rows
    obtain ⟨tags, hr⟩ := reported_delete hs (h r List.mem_cons_self)
    obtain ⟨tags', hrs⟩ := ih (hs.delete r) fun x hx => (h x (List.mem_cons_of_mem _ hx)).delete r
    exact ⟨tags ++ tags', hr.trans hrs⟩

theorem bulk_cases {w : RelationWrite} (hw : w.record? = none) :
    s.write w = s ∨ ∃ q, s.write w = (s.deleteAll (s.relations.select q)).2 := by
  cases w with
  | save r => cases hw
  | saveValidated r => cases hw
  | delete r => cases hw
  | deleteByGroup group =>
    simp only [Store.write, Store.deleteByGroup, byGroup]
    cases groupId group unsavedGroupMessage with
    | error f => exact .inl rfl
    | ok g => exact .inr ⟨_, rfl⟩
  | deleteByEntity e =>
    simp only [Store.write, Store.deleteByEntity, byEntity]
    cases e.key? with
    | none => exact .inl rfl
    | some k => exact .inr ⟨_, rfl⟩
  | deleteByContentType contentType => exact .inr ⟨_, rfl⟩

theorem reported_write (hs : s.Reachable) {w : RelationWrite} (hw : w.record? = none) :
    ∃ tags, s.Reported (s.write w) tags := by
  rcases bulk_cases hw with h | ⟨q, h⟩
  · rw [h]
    exact ⟨[], .refl s⟩
  · rw [h]
    exact reported_deleteAll hs fun _ hr => isRow_of_mem_select hs.sound hr

/-- A write that is given a record leaves the table as it is, or it changes one row: a new one, or the
one with the record's id. -/
theorem write_cases (hs : s.Sound) {w : RelationWrite} (hw : w.record? = some r) :
    (s.write w).relations = s.relations ∨
      ∃ id r', s.ChangesRow (s.write w) id r' ∧
        (r.id = none ∧ s.load id = none ∨
          r.id = some id ∧ CacheTag.stale r' = CacheTag.stale r) := by
  cases w with
  | save x =>
    cases hw
    rcases s.save_cases r with ⟨f, hsave⟩ | ⟨r', t, hwrites, hsave⟩
    · exact .inl (congrArg (Store.relations ·.2) hsave)
    · right
      have hrel : (s.write (.save r)).relations = t := congrArg (Store.relations ·.2) hsave
      have htags : (s.write (.save r)).staleTags = s.staleTags ++ CacheTag.stale r' :=
        congrArg (Store.staleTags ·.2) hsave
      obtain ⟨id, hrow⟩ := changesRow_of_writes hs hwrites hrel htags
      exact ⟨id, r', hrow⟩
  | saveValidated x =>
    cases hw
    rcases s.saveValidated_cases r with ⟨ha, -⟩ | ⟨r', t, s₁, -, hwrites, ha, hsave⟩
    · exact .inl ha.relations
    · right
      have hrel : (s.write (.saveValidated r)).relations = t :=
        congrArg (Store.relations ·.2) hsave
      have htags : (s.write (.saveValidated r)).staleTags = s.staleTags ++ CacheTag.stale r' := by
        rw [← ha.staleTags]
        exact congrArg (Store.staleTags ·.2) hsave
      obtain ⟨id, hrow⟩ := changesRow_of_writes hs hwrites hrel htags
      exact ⟨id, r', hrow⟩
  | delete x =>
    cases hw
    rcases s.changesRow_delete r with hd | ⟨id, old, hid, -, hrow⟩
    · exact .inl (congrArg Store.relations hd)
    · exact .inr ⟨id, r, hrow, .inr ⟨hid, rfl⟩⟩
  | deleteByGroup group => cases hw
  | deleteByEntity e => cases hw
  | deleteByContentType contentType => cases hw

theorem Reachable.write (hs : s.Reachable) (w : RelationWrite) : (s.write w).Reachable := by
  cases w with
  | save r => exact hs.save r
  | saveValidated r => exact hs.saveValidated r
  | delete r => exact hs.delete r
  | deleteByGroup group => exact hs.deleteByGroup group
  | deleteByEntity e => exact hs.deleteByEntity e
  | deleteByContentType contentType => exact hs.deleteByContentType contentType

theorem listed_eq_of_relations_eq (h : s'.relations = s.relations) (scope : ListScope) :
    s'.listed scope = s.listed scope := by
  unfold listed
  rw [h]

theorem overlooks_iff {w : RelationWrite} {r' : Relation} (hw : w.record? = some r)
    (hid : r.id = none ∧ s.load id = none ∨ r.id = some id ∧ CacheTag.stale r' = CacheTag.stale r)
    (scope : ListScope) :
    w.Overlooks s scope ↔
      (∃ old, s.load id = some old ∧ scope.covers old = true) ∧ scope.tag ∉ CacheTag.stale r' := by
  constructor
  · rintro ⟨x, id', old, hx, hid', hold, hcovers, htag⟩
    rw [hw] at hx
    cases hx
    rcases hid with ⟨hnone, -⟩ | ⟨hid, hstale⟩
    · rw [hnone] at hid'
      cases hid'
    · rw [hid] at hid'
      cases hid'
      exact ⟨⟨old, hold, hcovers⟩, hstale ▸ htag⟩
  · rintro ⟨⟨old, hold, hcovers⟩, htag⟩
    rcases hid with ⟨-, hnone⟩ | ⟨hid, hstale⟩
    · rw [hold] at hnone
      cases hnone
    · exact ⟨r, id, old, hw, hid, hold, hcovers, hstale ▸ htag⟩

/-- Every row that a write changes is reported. A list that it changes is reported too, exactly if
the write does nothing or the record that it was given does not overlook the list. -/
theorem sent_iff_not_overlooks (hs : s.Reachable) (w : RelationWrite) :
    (∀ id, (s.write w).load id ≠ s.load id → CacheTag.ofRelation id ∈ s.sent w) ∧
    ∀ scope, ((s.write w).listed scope ≠ s.listed scope → scope.tag ∈ s.sent w) ↔
      (s.write w).relations = s.relations ∨ ¬ w.Overlooks s scope := by
  cases hw : w.record? with
  | none =>
    obtain ⟨tags, h⟩ := reported_write hs hw
    rw [sent_eq h.staleTags]
    refine ⟨h.row, fun scope => iff_of_true (h.list scope) (.inr ?_)⟩
    rintro ⟨r, -, -, hr, -⟩
    rw [hw] at hr
    cases hr
  | some r =>
    rcases write_cases hs.sound hw with hrel | ⟨id, r', hrow, hid⟩
    · constructor
      · intro id hne
        exact absurd (congrArg (RelationTable.get? · id) hrel) hne
      · intro scope
        refine iff_of_true (fun hne => ?_) (.inl hrel)
        exact absurd (listed_eq_of_relations_eq hrel scope) hne
    · rw [sent_eq hrow.staleTags]
      refine ⟨fun j hj => hrow.ofRelation_mem hj, fun scope => ?_⟩
      rw [overlooks_iff hw hid scope]
      by_cases htag : scope.tag ∈ CacheTag.stale r'
      · exact iff_of_true (fun _ => htag) (.inr fun h => h.2 htag)
      · have hlist := hrow.listed_ne_iff hs.sound (hs.write w).sound scope htag
        constructor
        · intro hsent
          right
          rintro ⟨hold, -⟩
          exact htag (hsent (hlist.mpr hold))
        · rintro (hrel | hno) hne
          · exact absurd (listed_eq_of_relations_eq hrel scope) hne
          · exact absurd ⟨hlist.mp hne, htag⟩ hno

def membership : Relation :=
  .draft default ⟨0, 0⟩ 1 "club" "club-group_membership" PluginId.membership
    ⟨.numeric, ⟨EntityTypeId.user, .int 1⟩⟩

def joined : Store := (club.save membership).2

theorem reachable_joined : joined.Reachable := reachable_club.save membership

/-- A membership that is deleted as it is stored leaves no list stale that is not reported. -/
theorem sent_after_delete : ∃ r, joined.load 1 = some r ∧
    (joined.write (.delete r)).listed (.target (.int 1)) ≠ joined.listed (.target (.int 1)) ∧
      (ListScope.target (.int 1)).tag ∈ joined.sent (.delete r) := by
  obtain ⟨r, hr⟩ : ∃ r, joined.load 1 = some r := ⟨_, rfl⟩
  have hne : (joined.write (.delete r)).listed (.target (.int 1)) ≠
      joined.listed (.target (.int 1)) := by
    cases hr
    decide
  refine ⟨r, hr, hne, ((sent_iff_not_overlooks reachable_joined _).2 _).mpr (.inr ?_) hne⟩
  rintro ⟨x, id, old, hx, hid, hold, hcovers, htag⟩
  cases hx
  have hrow := reachable_joined.sound.relations.id_eq hr
  rw [hid] at hrow
  cases hrow
  rw [hr] at hold
  cases hold
  exact htag (ListScope.tag_mem_stale hcovers)

/-- The membership, handed over for another user. -/
def retargeted : Relation :=
  { membership with id := some 1, target := ⟨.numeric, ⟨EntityTypeId.user, .int 2⟩⟩ }

/-- The list of the first user's relations loses the membership, and nobody is told. -/
theorem unsent_after_retarget : joined.Reachable ∧
    (joined.write (.save retargeted)).listed (.target (.int 1)) ≠
      joined.listed (.target (.int 1)) ∧
    (ListScope.target (.int 1)).tag ∉ joined.sent (.save retargeted) := by
  refine ⟨reachable_joined, ?_, ?_⟩
  · decide
  · decide

end Store

end Grouping
