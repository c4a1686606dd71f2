import Grouping.Proofs.Deletion
import Grouping.Proofs.Joining
import Grouping.Proofs.Operation

/-! # No relation dangles

A relation comes in for a group and a target that are stored, and whatever is deleted takes the
relations that involve it along. So no run of operations leaves a relation whose group or target is
gone. The one exception is a group that cannot get its first member because it came with a name: when
it is taken back, what was stored under that name goes too, but the relations to that stay.
-/

namespace Grouping.Store

variable {s s' : Store} {entity group saved : Entity} {creator : Option Entity} {plugin : String}
  {r : Relation} {k : EntityKey} {n : Nat}

/-- The relation's group and its target are stored. -/
def Resolves (s : Store) (r : Relation) : Prop := (s.loadGroup r).isSome ∧ (s.loadTarget r).isSome

def NoDangling (s : Store) : Prop := ∀ r ∈ s.relations.relations, s.Resolves r

theorem Resolves.mono (h : s.Resolves r)
    (hload : ∀ k, (s.entities.load k).isSome → (s'.entities.load k).isSome) : s'.Resolves r :=
  ⟨hload _ h.1, hload _ h.2⟩

namespace NoDangling

theorem of_subset (h : s.NoDangling) (hrelations : s'.relations.relations ⊆ s.relations.relations)
    (hload : ∀ k, (s.entities.load k).isSome → (s'.entities.load k).isSome) : s'.NoDangling := by
  intro r hr
  exact (h r (hrelations hr)).mono hload

theorem of_eq (h : s.NoDangling) (hrelations : s'.relations = s.relations)
    (hentities : s'.entities = s.entities) : s'.NoDangling :=
  h.of_subset (by rw [hrelations]; exact fun _ hr => hr) (by rw [hentities]; exact fun _ hk => hk)

theorem of_agrees (h : s.NoDangling) (ha : s.Agrees s') : s'.NoDangling :=
  h.of_eq ha.relations ha.entities

theorem of_puts (h : s.NoDangling) {entities : EntityStore}
    (hputs : s.entities.Puts saved entities) : NoDangling { s with entities } :=
  h.of_subset (fun _ hr => hr) fun _ hk => hputs.isSome_load hk

theorem of_gains (h : s.NoDangling) (hs : s.Sound) (hg : s.Gains s' r)
    (hr : s.Resolves r) : s'.NoDangling := by
  have hload : ∀ k, (s.entities.load k).isSome → (s'.entities.load k).isSome := by
    rw [hg.entities]
    exact fun _ hk => hk
  intro x hx
  rw [hg.relations hs, List.mem_append, List.mem_singleton] at hx
  rcases hx with hx | rfl
  · exact (h x hx).mono hload
  · exact hr.mono hload

theorem of_cascades (h : s.NoDangling) (hc : s.Cascades k n s') : s'.NoDangling := by
  intro r hr
  rw [hc.relations, List.mem_filter, decide_eq_true_eq] at hr
  obtain ⟨hr, hinvolves⟩ := hr
  obtain ⟨hkey, hgroup : r.groupKey ≠ k⟩ := not_or.mp hinvolves
  obtain ⟨hstored, htarget⟩ := h r hr
  constructor
  · change (s'.entities.load r.groupKey).isSome
    rw [hc.entities, if_neg (Ne.symm hgroup)]
    exact hstored
  · change (s'.entities.load r.key).isSome
    rw [hc.entities, if_neg (Ne.symm hkey)]
    exact htarget

theorem of_admission (h : s.NoDangling) (hs : s.Sound) (hgroup : s.entities.HoldsKeyOf group)
    (hentity : s.entities.HoldsKeyOf entity) (ha : s.Admission entity group plugin s') :
    s'.NoDangling := by
  cases ha with
  | refused hagrees => exact h.of_agrees hagrees
  | joined i r hjoins _ hgains =>
    exact h.of_gains hs hgains ⟨hgroup _ hjoins.groupKey, hentity _ hjoins.key⟩

theorem of_founds (h : s.NoDangling) (hs : s.Sound) {member : Option Entity}
    (hmember : ∀ e, member = some e → s.entities.HoldsKeyOf e) (hf : s.Founds saved member s') :
    s'.NoDangling := by
  cases hf with
  | alone hputs hagrees => exact (h.of_puts hputs).of_agrees hagrees
  | @joined entities _ member i r hputs hjoins hgains =>
    refine of_gains (h.of_puts hputs) (hs.puts hputs) hgains ⟨?_, ?_⟩
    · -- the group is the one that was just stored
      change (entities.load r.groupKey).isSome
      have hkey : saved.key? = some r.groupKey := hjoins.groupKey
      rw [hputs.load, if_pos hkey]
      rfl
    · exact hputs.isSome_load (hmember member rfl _ hjoins.key)

end NoDangling

theorem holdsKeyOf_joiner (hs : s.Sound)
    (hcreator : ∀ e, creator = some e → s.entities.HoldsKeyOf e) {member : Entity}
    (h : s.joiner? group creator = some member) : s.entities.HoldsKeyOf member := by
  unfold joiner? at h
  split at h
  · cases h
  · split at h
    · cases creator with
      | some e => exact hcreator member h
      | none =>
        -- the owner is loaded, and entities are stored under their own keys
        obtain ⟨n, -, hload⟩ := Option.bind_eq_some_iff.mp h
        intro k hk
        rw [hs.entities _ _ hload] at hk
        cases hk
        rw [hload]
        rfl
    · cases h

theorem noDangling_createGroup (h : s.NoDangling) (hs : s.Reachable)
    (hcreator : ∀ e, creator = some e → s.entities.HoldsKeyOf e)
    (hname : ∀ name, group.id ≠ some (.name name)) :
    (s.createGroup group creator).2.NoDangling := by
  cases hanswer : (s.createGroup group creator).1 with
  | error f =>
    cases createGroup_fails hs hanswer with
    | unchanged _ hrelations hentities => exact h.of_eq hrelations hentities
    | undone name _ _ hid => exact absurd hid (hname name)
  | ok saved =>
    exact h.of_founds hs.sound (fun e he => holdsKeyOf_joiner hs.sound hcreator he)
      (founds_createGroup hanswer)

theorem noDangling_perform {op : Operation} (h : s.NoDangling) (hs : s.Reachable)
    (hknows : s.Knows op) (hnames : ¬ op.namesGroup) : (s.perform op).NoDangling := by
  cases op with
  | setClock now => exact h
  | registerType t => exact h
  | setting c => exact h
  | saveEntity e =>
    rcases s.saveEntity_puts e with ⟨f, hsave⟩ | ⟨saved, entities, hsave, hputs⟩
    · simpa [perform, hsave] using h
    · simpa [perform, hsave] using h.of_puts hputs
  | createGroup group creator =>
    refine noDangling_createGroup h hs (knows_createGroup_iff.mp hknows) fun name hid => ?_
    simp [Operation.namesGroup, hid, EntityId.name?] at hnames
  | addContent group entity plugin =>
    obtain ⟨hgroup, hentity⟩ := knows_addContent_iff.mp hknows
    exact h.of_admission hs.sound hgroup hentity (admission_addContent hs group entity plugin)
  | addMember group user roles =>
    obtain ⟨hgroup, huser⟩ := knows_addMember_iff.mp hknows
    exact h.of_admission hs.sound hgroup huser (admission_addMember hs group user roles)
  | removeContent r =>
    refine h.of_subset (s.relations_delete r).subset fun k hk => ?_
    change ((s.delete r).2.entities.load k).isSome
    rwa [entities_delete]
  | deleteGroup group =>
    change (s.deleteGroup group).2.NoDangling
    rcases deleteGroup_cases hs group with hd | ⟨k, n, hcascades⟩
    · rwa [hd]
    · exact h.of_cascades hcascades
  | deleteEntity e =>
    change (s.deleteEntity e).2.NoDangling
    rcases deleteEntity_cases hs e with hd | ⟨k, n, hcascades⟩
    · rwa [hd]
    · exact h.of_cascades hcascades
  | uninstallPlugin groupType plugin =>
    have hwarm := h.of_agrees s.agrees_warm
    change (s.uninstallPlugin groupType plugin).2.NoDangling
    rcases s.uninstallPlugin_cases groupType plugin with hu | ⟨rs, hu⟩
    · rwa [hu]
    · rw [hu]
      refine hwarm.of_subset (s.warm.relations_deleteAll rs).subset fun k hk => ?_
      change ((s.warm.deleteAll rs).2.entities.load k).isSome
      rwa [entities_deleteAll]

/-- A run that starts without relations never leaves one that dangles, if the entities that it brings
together are stored and it names no group. -/
theorem throughout_noDangling {start : Store} {ops : List Operation} (hstart : start.Reachable)
    (hempty : start.relations.relations = [])
    (h : start.AtEach (fun s op => s.Knows op ∧ ¬ op.namesGroup) ops) :
    start.Throughout NoDangling ops := by
  have hnone : start.NoDangling := by
    intro r hr
    rw [hempty] at hr
    cases hr
  have hrun : start.Throughout (fun s => s.Reachable ∧ s.NoDangling) ops := by
    refine throughout_of_preserved ?_ ⟨hstart, hnone⟩ h
    rintro s op ⟨hs, hd⟩ ⟨hknows, hnames⟩
    exact ⟨hs.perform op, noDangling_perform hd hs hknows hnames⟩
  exact hrun.mono fun _ hs => hs.2

/-- Chess is founded by the user and joins Go with its founder, before it is deleted. -/
def season : List Operation :=
  [.setting (.registerGroupType { id := "club", label := "Club" }),
    .setting (.install "club" subclubs none),
    .saveEntity (Entity.create default EntityTypeId.user EntityTypeId.user),
    .createGroup (Entity.group default "club" "Chess") (some user),
    .createGroup (Entity.group default "club" "Go") none,
    .addContent go chess subclubs,
    .addMember go user [],
    .deleteGroup chess]

/-- Only the membership in Go is left in the end. -/
theorem throughout_noDangling_season :
    (fresh .empty ⟨0, 0⟩).Throughout NoDangling season ∧
      (season.dropLast.foldl perform (fresh .empty ⟨0, 0⟩)).relations.size = 3 ∧
      (season.foldl perform (fresh .empty ⟨0, 0⟩)).relations.size = 1 := by
  have hseason : (fresh .empty ⟨0, 0⟩).AtEach (fun s op => s.Knows op ∧ ¬ op.namesGroup) season := by
    decide +kernel
  refine ⟨throughout_noDangling (reachable_fresh _ _) rfl hseason, ?_, ?_⟩
  · decide +kernel
  · decide +kernel

end Grouping.Store
