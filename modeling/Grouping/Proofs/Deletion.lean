import Grouping.Proofs.GroupCreation
import Grouping.Proofs.Staleness

/-! # What goes with a deleted entity

The relations to an entity go when it is deleted, and those in it if it is a group. A group that is in
itself has such relations of both kinds; the second pass no longer finds them, so that each relation is
counted once. Whether a deletion is refused is clear before the first relation goes.
-/

namespace Grouping

namespace Relation

def groupKey (r : Relation) : EntityKey := ⟨EntityTypeId.group, .int r.group⟩

/-- The relation is to the entity with the key or, where that is a group, in it. -/
def Involves (r : Relation) (k : EntityKey) : Prop := r.key = k ∨ r.groupKey = k

instance (r : Relation) (k : EntityKey) : Decidable (r.Involves k) :=
  inferInstanceAs (Decidable (_ ∨ _))

theorem involves_iff_of_type_ne {r : Relation} {k : EntityKey} (h : k.type ≠ EntityTypeId.group) :
    r.Involves k ↔ r.key = k := by
  constructor
  · rintro (hk | rfl)
    · exact hk
    · exact absurd rfl h
  · exact .inl

theorem involves_groupKey_iff {r : Relation} {g : Int64} :
    r.Involves ⟨EntityTypeId.group, .int g⟩ ↔
      r.key = ⟨EntityTypeId.group, .int g⟩ ∨ r.group = g := by
  simp [Involves, groupKey]

end Relation

theorem RelationQuery.inGroup_holds_iff {g : Int64} {r : Relation} :
    (inGroup g).holds r = true ↔ r.group = g := by
  simp [inGroup, holds, allows]

namespace Store

variable {s s' : Store} {e group : Entity} {k : EntityKey} {q : RelationQuery} {rs : List Relation}

/-! ## Deleting many rows -/

theorem delete_fst {r : Relation} {id : Int} (hid : r.id = some id) (h : s.load id = some r) :
    (s.delete r).1 = true := by
  rcases s.delete_cases r with ⟨-, hnone⟩ | ⟨_, _, -, -, hd⟩
  · rw [hnone id hid] at h
    cases h
  · rw [hd]

theorem deleteAll_rows (hids : rs.Pairwise fun r x => r.id ≠ x.id)
    (hrows : ∀ r ∈ rs, ∃ id, r.id = some id ∧ s.load id = some r) :
    (s.deleteAll rs).1 = rs.length ∧
      ∀ j, (s.deleteAll rs).2.load j = if some j ∈ rs.map Relation.id then none else s.load j := by
  induction rs generalizing s with
  | nil => exact ⟨rfl, fun j => by rw [if_neg (by simp)]; rfl⟩
  | cons r rs ih =>
    obtain ⟨hne, hids⟩ := List.pairwise_cons.mp hids
    obtain ⟨id, hid, hload⟩ := hrows r List.mem_cons_self
    have hdeleted := load_delete hid hload
    have hrest : ∀ x ∈ rs, ∃ j, x.id = some j ∧ (s.delete r).2.load j = some x := by
      intro x hx
      obtain ⟨j, hj, hxload⟩ := hrows x (List.mem_cons_of_mem _ hx)
      refine ⟨j, hj, ?_⟩
      rw [hdeleted, if_neg, hxload]
      rintro rfl
      exact hne x hx (hid.trans hj.symm)
    obtain ⟨hcount, hafter⟩ := ih hids hrest
    constructor
    · simp only [deleteAll, delete_fst hid hload, hcount, List.length_cons]
      exact Nat.add_comm 1 _
    · intro j
      have hsame : (s.deleteAll (r :: rs)).2 = ((s.delete r).2.deleteAll rs).2 := rfl
      simp only [hsame, hafter, hdeleted, List.map_cons, List.mem_cons, hid]
      by_cases hj : id = j
      · simp [hj]
      · simp [hj, Ne.symm hj]

/-! ## Deleting the rows of a query -/

theorem pairwise_id_ne_select (hs : s.Sound) :
    (s.relations.select q).Pairwise fun r x => r.id ≠ x.id := by
  rw [hs.relations.select_eq_scan]
  refine (hs.relations.pairwise_relations.filter _).imp ?_
  rintro r x ⟨i, j, hi, hj, hlt⟩ heq
  rw [hi, hj] at heq
  cases heq
  omega

theorem id_mem_select_iff (hs : s.Sound) {j : Int} :
    some j ∈ (s.relations.select q).map Relation.id ↔
      ∃ r, s.load j = some r ∧ q.holds r = true := by
  simp only [List.mem_map, mem_select_iff hs]
  constructor
  · rintro ⟨r, ⟨⟨i, hload⟩, hr⟩, hid⟩
    rw [hs.relations.id_eq hload] at hid
    cases hid
    exact ⟨r, hload, hr⟩
  · rintro ⟨r, hload, hr⟩
    exact ⟨r, ⟨⟨j, hload⟩, hr⟩, hs.relations.id_eq hload⟩

theorem deleteAll_select (hs : s.Sound) (q : RelationQuery) :
    (s.deleteAll (s.relations.select q)).1 = (s.relations.select q).length ∧
      ∀ j, (s.deleteAll (s.relations.select q)).2.load j =
        (s.load j).filter fun r => ¬ q.holds r = true := by
  have hrows : ∀ r ∈ s.relations.select q, ∃ id, r.id = some id ∧ s.load id = some r := by
    intro r hr
    obtain ⟨⟨id, hload⟩, -⟩ := (mem_select_iff hs).mp hr
    exact ⟨id, hs.relations.id_eq hload, hload⟩
  obtain ⟨hcount, hafter⟩ := deleteAll_rows (pairwise_id_ne_select hs) hrows
  refine ⟨hcount, fun j => ?_⟩
  simp only [hafter, id_mem_select_iff hs]
  cases s.load j with
  | none => simp
  | some r => by_cases hr : q.holds r = true <;> simp [Option.filter, hr]

/-- Just the relations that satisfy `p` are gone, `n` in number. -/
structure Drops (s : Store) (p : Relation → Prop) [DecidablePred p] (n : Nat) (s' : Store) : Prop where
  reachable : s'.Reachable
  entities : s'.entities = s.entities
  count : n = s.relations.relations.countP p
  relations : s'.relations.relations = s.relations.relations.filter fun r => ¬ p r

variable {p p' : Relation → Prop} [DecidablePred p] [DecidablePred p'] {n m : Nat} {s'' : Store}

/-- Deleting the rows that a query finds leaves the others and counts the found ones. -/
theorem drops_deleteAll_select (hs : s.Reachable) (hq : ∀ r, q.holds r = true ↔ p r) :
    s.Drops p (s.deleteAll (s.relations.select q)).1 (s.deleteAll (s.relations.select q)).2 := by
  have hcoherent := hs.sound.relations
  have hcoherent' := (hs.deleteAll (s.relations.select q)).sound.relations
  obtain ⟨hcount, hload⟩ := deleteAll_select hs.sound q
  simp only [hq] at hload
  refine ⟨hs.deleteAll _, s.entities_deleteAll _, ?_, ?_⟩
  · rw [hcount, hcoherent.select_eq_scan, RelationTable.scan, ← List.countP_eq_length_filter]
    exact List.countP_congr fun r _ => by simp [hq]
  · -- what is left satisfies the filter already, so both lists are filtered alike
    rw [← hcoherent'.filter_eq hcoherent (p := fun r => ¬ p r), eq_comm, List.filter_eq_self]
    · intro r hr
      obtain ⟨j, hj⟩ := RelationTable.mem_relations_iff.mp hr
      have hj := (hload j).symm.trans hj
      exact (Option.filter_eq_some_iff.mp hj).2
    · intro j
      change ((s.deleteAll (s.relations.select q)).2.load j).filter _ = (s.load j).filter _
      rw [hload, Option.filter_filter]
      simp

theorem drops_deleteByContentType (hs : s.Reachable) (ct : String) :
    s.Drops (fun x => x.contentType = ct) (s.deleteByContentType ct).1 (s.deleteByContentType ct).2 :=
  drops_deleteAll_select hs fun x => by simp [RelationQuery.holds, RelationQuery.allows]

/-- The second deletion no longer finds what the first one has removed. -/
theorem Drops.or (h : s.Drops p n s') (h' : s'.Drops p' m s'') :
    s.Drops (fun r => p r ∨ p' r) (n + m) s'' where
  reachable := h'.reachable
  entities := h'.entities.trans h.entities
  count := by
    rw [h.count, h'.count, h.relations,
      List.countP_eq_countP_filter_add s.relations.relations (fun r => p r ∨ p' r) (fun r => p r),
      List.countP_filter, List.countP_filter, List.countP_filter]
    congr 1
    · refine List.countP_congr fun r _ => ?_
      simp only [Bool.and_eq_true, decide_eq_true_eq]
      tauto
    · refine List.countP_congr fun r _ => ?_
      simp only [Bool.and_eq_true, decide_eq_true_eq, Bool.not_eq_true', decide_eq_false_iff_not]
      tauto
  relations := by
    rw [h'.relations, h.relations, List.filter_filter]
    refine List.filter_congr fun r _ => ?_
    rw [Bool.eq_iff_iff]
    simp only [Bool.and_eq_true, decide_eq_true_eq]
    tauto

theorem Drops.congr (h : s.Drops p n s') (hp : ∀ r ∈ s.relations.relations, p r ↔ p' r) :
    s.Drops p' n s' where
  reachable := h.reachable
  entities := h.entities
  count := by
    rw [h.count]
    exact List.countP_congr fun r hr => by simp [hp r hr]
  relations := by
    rw [h.relations]
    exact List.filter_congr fun r hr => by simp [hp r hr]

/-! ## Deleting an entity -/

/-- What is under the key is gone, and so are the `n` relations that involve it. -/
structure Cascades (s : Store) (k : EntityKey) (n : Nat) (s' : Store) : Prop where
  relations : s'.relations.relations = s.relations.relations.filter fun r => ¬ r.Involves k
  count : n = s.relations.relations.countP fun r => r.Involves k
  entities : ∀ j, s'.entities.load j = if k = j then none else s.entities.load j

theorem Drops.cascades (h : s.Drops (fun r => r.Involves k) n s') (hk : e.key? = some k) :
    s.Cascades k n (s'.dropEntity e) where
  relations := by rw [relations_dropEntity, h.relations]
  count := h.count
  entities j := by rw [load_dropEntity hk, h.entities]

theorem deleteByEntity_of_key (hs : s.Reachable) (hk : e.key? = some k) :
    ∃ n s', s.deleteByEntity e = (.ok n, s') ∧ s.Drops (fun r => r.key = k) n s' := by
  have hdrops : s.Drops (fun r => r.key = k) _ _ :=
    drops_deleteAll_select hs fun r => RelationQuery.ofTarget_holds_iff
  refine ⟨_, _, ?_, hdrops⟩
  simp only [deleteByEntity, byEntity, hk]

theorem deleteByGroup_of_serial (hs : s.Reachable) {g : Int64} (hgroup : group.isGroup = true)
    (hg : group.serial? = some g) :
    ∃ n s', s.deleteByGroup group = (.ok n, s') ∧ s.Drops (fun r => r.group = g) n s' := by
  have hdrops : s.Drops (fun r => r.group = g) _ _ :=
    drops_deleteAll_select hs fun r => RelationQuery.inGroup_holds_iff
  refine ⟨_, _, ?_, hdrops⟩
  simp only [deleteByGroup, byGroup, groupId, hgroup, hg, not_true_eq_false, if_false]

theorem deleteGroup_of_serial (hs : s.Reachable) {g : Int64} (hgroup : group.isGroup = true)
    (hg : group.serial? = some g) :
    ∃ n s', s.deleteGroup group = (.ok n, s') ∧
      s.Cascades ⟨EntityTypeId.group, .int g⟩ n s' := by
  have hk := Entity.key?_eq_group_iff.mpr ⟨hgroup, hg⟩
  obtain ⟨inside, s₁, hinside, hdrops₁⟩ := deleteByGroup_of_serial hs hgroup hg
  obtain ⟨outside, s₂, houtside, hdrops₂⟩ := deleteByEntity_of_key hdrops₁.reachable hk
  have hdrops : s.Drops (fun r => r.Involves ⟨EntityTypeId.group, .int g⟩) (inside + outside) s₂ :=
    (hdrops₁.or hdrops₂).congr fun r _ => (Relation.involves_groupKey_iff.trans or_comm).symm
  refine ⟨inside + outside, s₂.dropEntity group, ?_, hdrops.cascades hk⟩
  simp only [deleteGroup, hinside, houtside]

/-- A deletion asks for a key, that of a group for a serial id. -/
def RefusesDeletion (e : Entity) : Prop := e.key? = none ∨ e.isGroup = true ∧ e.serial? = none

theorem deleteGroup_eq_error (h : group.isGroup = true → group.serial? = none) :
    ∃ f, s.deleteGroup group = (.error f, s) := by
  cases hgroup : group.isGroup with
  | false =>
    refine ⟨.notAGroup group.displayLabel, ?_⟩
    simp [deleteGroup, deleteByGroup, byGroup, groupId, hgroup]
  | true =>
    refine ⟨.unsavedGroup unsavedGroupMessage, ?_⟩
    simp [deleteGroup, deleteByGroup, byGroup, groupId, hgroup, h hgroup]

theorem deleteEntity_eq_error (h : RefusesDeletion e) :
    ∃ f, s.deleteEntity e = (.error f, s) := by
  unfold deleteEntity
  cases hgroup : e.isGroup with
  | true =>
    rw [if_pos rfl]
    refine deleteGroup_eq_error fun _ => ?_
    rcases h with hk | ⟨-, hg⟩
    · cases hg : e.serial? with
      | none => rfl
      | some g =>
        rw [Entity.key?_eq_group_iff.mpr ⟨hgroup, hg⟩] at hk
        cases hk
    · exact hg
  | false =>
    have hk : e.key? = none := by simpa [RefusesDeletion, hgroup] using h
    refine ⟨.unsavedEntity "Cannot load GroupContent entities for an unsaved entity.", ?_⟩
    simp [deleteByEntity, byEntity, hk]

theorem deleteEntity_eq_ok (hs : s.Reachable) (h : ¬ RefusesDeletion e) :
    ∃ k n s', e.key? = some k ∧ s.deleteEntity e = (.ok n, s') ∧ s.Cascades k n s' := by
  obtain ⟨hkey, hserial⟩ := not_or.mp h
  unfold deleteEntity
  cases hgroup : e.isGroup with
  | true =>
    obtain ⟨g, hg⟩ := Option.ne_none_iff_exists'.mp fun hg => hserial ⟨hgroup, hg⟩
    obtain ⟨n, s', hdeleted, hcascades⟩ := deleteGroup_of_serial hs hgroup hg
    exact ⟨_, n, s', Entity.key?_eq_group_iff.mpr ⟨hgroup, hg⟩, hdeleted, hcascades⟩
  | false =>
    obtain ⟨k, hk⟩ := Option.ne_none_iff_exists'.mp hkey
    have htype : k.type ≠ EntityTypeId.group := by
      rw [(Entity.key?_eq_some_iff.mp hk).2.2]
      simpa [Entity.isGroup] using hgroup
    obtain ⟨n, s₁, hdeleted, hdrops⟩ := deleteByEntity_of_key hs hk
    have hcascades : s.Cascades k n (s₁.dropEntity e) :=
      (hdrops.congr fun r _ => (Relation.involves_iff_of_type_ne htype).symm).cascades hk
    refine ⟨k, n, s₁.dropEntity e, hk, ?_, hcascades⟩
    simp [hdeleted]

/-- A deletion changes nothing, or it cascades. -/
theorem deleteEntity_cases (hs : s.Reachable) (e : Entity) :
    (s.deleteEntity e).2 = s ∨ ∃ k n, s.Cascades k n (s.deleteEntity e).2 := by
  by_cases h : RefusesDeletion e
  · obtain ⟨f, hd⟩ := deleteEntity_eq_error (s := s) h
    exact .inl (by rw [hd])
  · obtain ⟨k, n, s', -, hd, hcascades⟩ := deleteEntity_eq_ok hs h
    exact .inr ⟨k, n, by rwa [hd]⟩

theorem deleteGroup_cases (hs : s.Reachable) (group : Entity) :
    (s.deleteGroup group).2 = s ∨ ∃ k n, s.Cascades k n (s.deleteGroup group).2 := by
  by_cases hgroup : group.isGroup = true
  · have h := deleteEntity_cases hs group
    rwa [deleteEntity, if_pos hgroup] at h
  · obtain ⟨f, hd⟩ := deleteGroup_eq_error (s := s) fun h => absurd h hgroup
    exact .inl (by rw [hd])

/-- What `deleteGroup` does to a group is what `deleteEntity` does; it refuses all else. -/
theorem deleteEntity_cascades (hs : s.Reachable) (e : Entity) :
    (RefusesDeletion e → ∃ f, s.deleteEntity e = (.error f, s)) ∧
    (¬ RefusesDeletion e →
      ∃ k n s', e.key? = some k ∧ s.deleteEntity e = (.ok n, s') ∧ s.Cascades k n s') ∧
    (e.isGroup = true → s.deleteGroup e = s.deleteEntity e) ∧
    (e.isGroup = false → ∃ f, s.deleteGroup e = (.error f, s)) := by
  refine ⟨deleteEntity_eq_error, deleteEntity_eq_ok hs, fun hgroup => ?_, fun hgroup => ?_⟩
  · rw [deleteEntity, if_pos hgroup]
  · exact deleteGroup_eq_error fun h => by simp [hgroup] at h

/-! ## A club in itself -/

def subclubs : String := EnablerDefinition.derivedId PluginId.subgroupBase "club"

def chess : Entity := { Entity.group default "club" "Chess" with id := some (.int 1), saved := true }

def go : Entity := { Entity.group default "club" "Go" with id := some (.int 2), saved := true }

/-- Chess is in itself and in Go, which is in itself too; the user is a member of Chess. -/
def nested : Store :=
  let catalog := club.registry.catalog.register (.subgroup "club" "Club")
  let registry := ({ club.registry with catalog }.install "club" subclubs none).2
  let s := (saveEntity { club with registry } go).2
  let s := (s.addContent chess chess subclubs).2
  let s := (s.addContent go chess subclubs).2
  let s := (s.addContent go go subclubs).2
  (s.addMember chess user []).2

theorem reachable_nested : nested.Reachable := by
  have h := reachable_club.step (.registry (.catalog (.register _ (.subgroup "club" "Club"))))
  have h := h.step (.registry (.install _ "club" subclubs none))
  have h := h.saveEntity go
  have h := h.works (works_addContent _ chess chess subclubs)
  have h := h.works (works_addContent _ go chess subclubs)
  have h := h.works (works_addContent _ go go subclubs)
  exact h.works (works_addMember _ chess user [])

/-- Of the four relations, three involve Chess. -/
theorem deleteEntity_nested : ∃ s', nested.deleteEntity chess = (.ok 3, s') ∧
    nested.Cascades ⟨EntityTypeId.group, .int 1⟩ 3 s' ∧ nested.relations.size = 4 ∧
    s'.entities.load ⟨EntityTypeId.user, .int 1⟩ =
      nested.entities.load ⟨EntityTypeId.user, .int 1⟩ := by
  have hchess : ¬ RefusesDeletion chess := by
    unfold RefusesDeletion
    decide
  obtain ⟨k, n, s', hk, hdeleted, hcascades⟩ :=
    (deleteEntity_cascades reachable_nested chess).2.1 hchess
  have hcount : (nested.deleteEntity chess).1 = .ok 3 := by decide +kernel
  rw [hdeleted] at hcount
  cases hcount
  cases hk
  refine ⟨s', hdeleted, hcascades, by decide +kernel, ?_⟩
  rw [hcascades.entities]
  exact if_neg (by decide)

end Store

end Grouping
