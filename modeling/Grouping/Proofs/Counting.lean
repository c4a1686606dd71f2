import Grouping.Proofs.Reachability
import Mathlib.Data.List.Perm.Subperm

/-! # Counting relations

Both limits count rows by what links them: the group, the relation bundle, the plugin and the target.
The lookups that a validation uses count exactly these rows.
-/

namespace Grouping

structure Link where
  group : Int64
  contentType : String
  plugin : String
  key : EntityKey
  deriving DecidableEq

def Relation.link (r : Relation) : Link := ⟨r.group, r.contentType, r.plugin, r.key⟩

namespace RelationTable

variable {t t' : RelationTable}

def links (t : RelationTable) : List Link := t.relations.map Relation.link

/-- How often the target is in the group through the plugin. -/
def timesIn (t : RelationTable) (group : Int64) (plugin : String) (k : EntityKey) : Nat :=
  (t.relations.filter fun r => r.group = group ∧ r.plugin = plugin ∧ r.key = k).length

/-- The groups that have the target through the relation bundle. -/
def groupsWith (t : RelationTable) (contentType : String) (k : EntityKey) : List Int64 :=
  distinct ((t.relations.filter fun r => r.contentType = contentType ∧ r.key = k).map Relation.group)

theorem timesIn_eq (t : RelationTable) (group : Int64) (plugin : String) (k : EntityKey) :
    t.timesIn group plugin k =
      (t.links.filter fun l => l.group = group ∧ l.plugin = plugin ∧ l.key = k).length := by
  unfold timesIn links
  rw [List.filter_map, List.length_map]
  rfl

theorem mem_groupsWith_iff {contentType : String} {k : EntityKey} {g : Int64} :
    g ∈ t.groupsWith contentType k ↔
      ∃ l ∈ t.links, l.contentType = contentType ∧ l.key = k ∧ l.group = g := by
  unfold groupsWith links
  rw [mem_distinct]
  simp only [List.mem_map, List.mem_filter, decide_eq_true_eq]
  constructor
  · rintro ⟨r, ⟨hr, hct, hk⟩, hg⟩
    exact ⟨r.link, ⟨r, hr, rfl⟩, hct, hk, hg⟩
  · rintro ⟨l, ⟨r, hr, rfl⟩, hct, hk, hg⟩
    exact ⟨r, ⟨hr, hct, hk⟩, hg⟩

theorem timesIn_le (h : t'.links.Sublist t.links) (group : Int64) (plugin : String)
    (k : EntityKey) : t'.timesIn group plugin k ≤ t.timesIn group plugin k := by
  rw [timesIn_eq, timesIn_eq]
  exact (h.filter _).length_le

theorem length_groupsWith_le (h : t'.links.Sublist t.links) (contentType : String)
    (k : EntityKey) : (t'.groupsWith contentType k).length ≤ (t.groupsWith contentType k).length := by
  apply (nodup_distinct _).length_le_of_subset
  intro g hg
  obtain ⟨l, hl, hlink⟩ := mem_groupsWith_iff.mp hg
  exact mem_groupsWith_iff.mpr ⟨l, h.subset hl, hlink⟩

theorem timesIn_of_links_append {l : Link} (h : t'.links = t.links ++ [l]) (group : Int64)
    (plugin : String) (k : EntityKey) :
    t'.timesIn group plugin k = t.timesIn group plugin k +
      if l.group = group ∧ l.plugin = plugin ∧ l.key = k then 1 else 0 := by
  rw [timesIn_eq, timesIn_eq, h, List.filter_append, List.length_append]
  congr 1
  by_cases hl : l.group = group ∧ l.plugin = plugin ∧ l.key = k
  · rw [List.filter_cons_of_pos (by simpa using hl), if_pos hl]
    rfl
  · rw [List.filter_cons_of_neg (by simpa using hl), if_neg hl]
    rfl

theorem length_groupsWith_of_links_append {l : Link} (h : t'.links = t.links ++ [l])
    (contentType : String) (k : EntityKey) (others : List Int64)
    (hothers : ∀ g ∈ t.groupsWith contentType k, g ≠ l.group → g ∈ others) :
    (t'.groupsWith contentType k).length ≤ others.length + 1 := by
  have hsub : t'.groupsWith contentType k ⊆ l.group :: others := by
    intro g hg
    obtain ⟨x, hx, hct, hk, rfl⟩ := mem_groupsWith_iff.mp hg
    rw [h, List.mem_append, List.mem_singleton] at hx
    by_cases hgl : x.group = l.group
    · rw [hgl]
      exact List.mem_cons_self
    · refine List.mem_cons_of_mem _ (hothers _ ?_ hgl)
      rcases hx with hx | rfl
      · exact mem_groupsWith_iff.mpr ⟨x, hx, hct, hk, rfl⟩
      · exact absurd rfl hgl
  exact (nodup_distinct _).length_le_of_subset hsub

theorem groupsWith_of_links_append {l : Link} (h : t'.links = t.links ++ [l])
    {contentType : String} {k : EntityKey} (hl : ¬ (l.contentType = contentType ∧ l.key = k)) :
    (t'.groupsWith contentType k).length ≤ (t.groupsWith contentType k).length := by
  apply (nodup_distinct _).length_le_of_subset
  intro g hg
  obtain ⟨x, hx, hct, hk, hxg⟩ := mem_groupsWith_iff.mp hg
  rw [h, List.mem_append, List.mem_singleton] at hx
  rcases hx with hx | rfl
  · exact mem_groupsWith_iff.mpr ⟨x, hx, hct, hk, hxg⟩
  · exact absurd ⟨hct, hk⟩ hl

end RelationTable

namespace Store

variable {s s' : Store} {r : Relation}

/-- The other groups of a validation are those of the target through the relation bundle, without the
relation's own. -/
theorem mem_otherGroups_iff (hs : s.Sound) {g : Int64} :
    g ∈ s.otherGroups r ↔ g ∈ s.relations.groupsWith r.contentType r.key ∧ g ≠ r.group := by
  have hholds : ∀ x : Relation, RelationQuery.holds
      { RelationQuery.ofTarget r.key with contentTypes := some [r.contentType] } x = true ↔
        x.contentType = r.contentType ∧ x.key = r.key := by
    intro x
    rw [← RelationQuery.ofTarget_holds_iff]
    simp [RelationQuery.holds, RelationQuery.ofTarget, RelationQuery.allows]
    tauto
  unfold otherGroups
  rw [hs.relations.select_eq_scan, mem_distinct, List.mem_filter, decide_eq_true_eq,
    RelationTable.groupsWith, mem_distinct]
  simp only [RelationTable.scan, List.mem_map, List.mem_filter, hholds, decide_eq_true_eq]

theorem groupId_of_load (hs : s.Sound) {g : Int64} {group : Entity}
    (h : s.entities.load ⟨EntityTypeId.group, .int g⟩ = some group) (message : String) :
    groupId group message = .ok g :=
  groupId_of_key (hs.entities _ _ h) message

/-- The relations that link the target of a relation to its group through its plugin, without the
relation itself. -/
def counted (s : Store) (r : Relation) : List Relation :=
  s.relations.relations.filter fun x => (x.group = r.group ∧ x.plugin = r.plugin ∧
    x.key = r.key) ∧ (r.id = none ∨ x.id ≠ r.id)

theorem sameGroup_eq (hs : s.Sound) {group : Entity} (hg : s.loadGroup r = some group) :
    s.sameGroup r group = .ok (s.counted r) := by
  unfold sameGroup byTargetId
  rw [groupId_of_load hs hg]
  dsimp only
  rw [hs.relations.select_eq_scan, RelationTable.scan, List.filter_filter]
  congr 1
  refine List.filter_congr fun x _ => ?_
  rw [Bool.eq_iff_iff]
  simp [RelationQuery.holds, RelationQuery.inGroup, RelationQuery.allows, EntityKey.ext_iff]
  tauto

theorem checkGroup_eq (hs : s.Sound) {i : Installation} {label : String} {target group : Entity}
    (hg : s.loadGroup r = some group) :
    s.checkGroup i r label target group =
      .ok (if 0 < i.entityLimit ∧ i.entityLimit ≤ (s.counted r).length then
        [entityViolation r label target group] else []) := by
  unfold checkGroup
  rw [sameGroup_eq hs hg]
  by_cases hlimit : 0 < i.entityLimit
  · rw [if_pos hlimit]
    simp only [hlimit, true_and]
  · rw [if_neg hlimit, if_neg fun h => hlimit h.1]

/-- Where plugin, group and target are there, a validation compares either count with its limit. -/
theorem violations_eq (hs : s.Sound) {i : Installation} {group target : Entity}
    (hi : s.registry.ofContentType? r.contentType = some i)
    (hg : s.loadGroup r = some group) (ht : s.loadTarget r = some target) :
    ∃ label, (s.violations r).1 = .ok
      ((if 0 < i.groupLimit ∧ i.groupLimit ≤ (s.otherGroups r).length then
          [groupViolation r label target] else []) ++
        if 0 < i.entityLimit ∧ i.entityLimit ≤ (s.counted r).length then
          [entityViolation r label target group] else []) := by
  have hwarm : s.warm.registry.ofContentType? r.contentType = some i := by
    rw [Registry.ofContentType?, s.agrees_warm.installed]
    exact hi
  have hgroup : s.warm.loadGroup r = some group := hg
  have htarget : s.warm.loadTarget r = some target := ht
  unfold violations
  dsimp only
  rw [hwarm, hgroup, htarget]
  dsimp only
  split
  · next hun =>
    unfold Configuration.isUnlimited at hun
    rw [Bool.and_eq_true, decide_eq_true_eq, decide_eq_true_eq] at hun
    have hgroups : i.groupLimit = 0 := hun.1
    have hentity : i.entityLimit = 0 := hun.2
    refine ⟨"", ?_⟩
    rw [hgroups, hentity]
    rfl
  · refine ⟨(i.enabler.referenceField (s.warm.columnFor i.enabler.entityType).1).label, ?_⟩
    change Except.map (_ ++ ·) (s.checkGroup i r _ target group) = _
    rw [checkGroup_eq hs hg]
    rfl

/-- A validation that finds nothing has counted less than the limits allow. -/
theorem counts_of_violations_eq_nil (hs : s.Sound) {i : Installation} {group target : Entity}
    (hi : s.registry.ofContentType? r.contentType = some i)
    (hg : s.loadGroup r = some group) (ht : s.loadTarget r = some target)
    (h : (s.violations r).1 = .ok []) :
    (0 < i.groupLimit → (s.otherGroups r).length < i.groupLimit) ∧
      (0 < i.entityLimit → (s.counted r).length < i.entityLimit) := by
  obtain ⟨label, hv⟩ := violations_eq hs hi hg ht
  rw [h] at hv
  obtain ⟨hgroups, hentity⟩ := List.append_eq_nil_iff.mp (Except.ok.inj hv).symm
  constructor
  · intro hpos
    by_contra hlt
    rw [if_pos ⟨hpos, Nat.le_of_not_lt hlt⟩] at hgroups
    cases hgroups
  · intro hpos
    by_contra hlt
    rw [if_pos ⟨hpos, Nat.le_of_not_lt hlt⟩] at hentity
    cases hentity

theorem length_counted_of_draft (s : Store) {r : Relation} (h : r.id = none) :
    (s.counted r).length = s.relations.timesIn r.group r.plugin r.key := by
  unfold counted RelationTable.timesIn
  simp [h]

end Store

end Grouping
