import Grouping.Proofs.Dangling
import Grouping.Proofs.MembersOnce

/-! # Where relations come from

A relation comes into the store in one way: an entity joins a group through a plugin that accepts it. All
other operations leave the relations alone or take some away.
-/

namespace Grouping.Store

variable {s s' m : Store} {entity group saved : Entity} {creator : Option Entity} {plugin : String}
  {r r' x : Relation} {t : RelationTable}

/-- The relation is one with which an entity joins a group of its group type. -/
def Enters (s : Store) (x : Relation) : Prop :=
  ∃ entity group i, s.Joins entity group x.plugin i x.link ∧ x.groupType = group.bundle

theorem Enters.congr (h : s.Enters x) (hinst : s'.registry.installed = s.registry.installed) :
    s'.Enters x := by
  obtain ⟨entity, group, i, hjoins, hgroupType⟩ := h
  exact ⟨entity, group, i, hjoins.congr hinst, hgroupType⟩

theorem enters_of_draft (hdraft : s.draft entity group plugin = (.ok r, s')) (owner : Option Int64)
    (roles : List String) : s.Enters { r with owner, roles } := by
  obtain ⟨-, i, hjoins⟩ := joins_of_draft hdraft
  obtain ⟨_, hd⟩ := drafts_of_draft hdraft
  obtain rfl : r.plugin = plugin := hd.plugin_eq
  exact ⟨entity, group, i, hjoins, hd.groupType⟩

theorem Writes.enters (hw : s.Writes r r' t) (h : m.Enters r) : m.Enters r' := by
  cases hw with
  | add i => exact h
  | rewrite i id old => exact h

theorem Writes.enters_of_mem (hw : s.Writes r r' t) (hs : s.relations.Coherent) (hr : m.Enters r)
    (hx : x ∈ t.relations) : x ∈ s.relations.relations ∨ m.Enters x := by
  refine (hw.mem_cases hs hx).imp_right ?_
  rintro rfl
  exact hw.enters hr

theorem SavesDraft.enters_of_mem {o : Outcome Store Saving} (hs : s.Sound)
    (h : s.SavesDraft entity group plugin o) (hx : x ∈ o.2.relations.relations) :
    x ∈ s.relations.relations ∨ s.Enters x := by
  have ha := s.agrees_draft entity group plugin
  cases h with
  | failed hdraft =>
    rw [hdraft] at ha
    exact .inl (ha.relations ▸ hx)
  | @saved r s' owner roles hdraft =>
    rw [hdraft] at ha
    rcases s'.saveValidated_cases { r with owner, roles } with
      ⟨ha', -⟩ | ⟨row, t, s₁, -, hw, -, hsave⟩
    · rw [ha'.relations, ha.relations] at hx
      exact .inl hx
    · rw [hsave] at hx
      exact (ha.writes hw).enters_of_mem hs.relations (enters_of_draft hdraft owner roles) hx

theorem enters_of_mem_createGroup (hs : s.Reachable)
    (hx : x ∈ (s.createGroup group creator).2.relations.relations) :
    x ∈ s.relations.relations ∨ s.Enters x := by
  rcases hcreate : s.createGroup group creator with ⟨f | saved, s'⟩
  · have hfails := createGroup_fails hs (congrArg Prod.fst hcreate)
    rw [hfails.relations] at hx
    exact .inl hx
  · rw [hcreate] at hx
    obtain ⟨type, owner, s₁, -, -, ha, hadd⟩ := createGroup_eq_ok hcreate
    obtain ⟨entities, -, -, halone, hjoined⟩ := addGroup_eq_ok hadd
    cases hm : s.joiner? group creator with
    | none =>
      left
      rw [halone hm] at hx
      exact ha.relations ▸ hx
    | some member =>
      obtain ⟨r, hcreator⟩ := hjoined member hm
      obtain ⟨r₀, i, t, s₂, -, hgroupType, -, hjoins, hw, -, rfl⟩ := writes_addCreator hcreator
      have hplugin : r₀.plugin = PluginId.membership := hjoins.plugin_eq
      have hr : s.Enters r₀ :=
        ⟨member, saved, i, hplugin ▸ hjoins.congr ha.installed.symm, hgroupType⟩
      have hmem := hw.enters_of_mem (ha.relations ▸ hs.sound.relations) hr hx
      exact hmem.imp_left fun hold => ha.relations ▸ hold

/-- What is there after an operation was there before, or it is what an entity joins a group with. -/
theorem enters_of_mem_perform (hs : s.Reachable) (op : Operation)
    (hx : x ∈ (s.perform op).relations.relations) : x ∈ s.relations.relations ∨ s.Enters x := by
  cases op with
  | setClock now => exact .inl hx
  | registerType t => exact .inl hx
  | setting c => exact .inl hx
  | saveEntity e =>
    change x ∈ (s.saveEntity e).2.relations.relations at hx
    rcases s.saveEntity_puts e with ⟨f, hsave⟩ | ⟨saved, entities, hsave, -⟩
    · rw [hsave] at hx
      exact .inl hx
    · rw [hsave] at hx
      exact .inl hx
  | createGroup group creator => exact enters_of_mem_createGroup hs hx
  | addContent group entity plugin => exact (s.savesDraft_addContent ..).enters_of_mem hs.sound hx
  | addMember group user roles => exact (s.savesDraft_addMember ..).enters_of_mem hs.sound hx
  -- deletions and uninstalling only take relations away
  | removeContent r => exact .inl ((s.relations_delete r).subset hx)
  | deleteGroup group =>
    change x ∈ (s.deleteGroup group).2.relations.relations at hx
    rcases deleteGroup_cases hs group with hd | ⟨k, n, hcascades⟩
    · exact .inl (hd ▸ hx)
    · rw [hcascades.relations] at hx
      exact .inl (List.mem_of_mem_filter hx)
  | deleteEntity e =>
    change x ∈ (s.deleteEntity e).2.relations.relations at hx
    rcases deleteEntity_cases hs e with hd | ⟨k, n, hcascades⟩
    · exact .inl (hd ▸ hx)
    · rw [hcascades.relations] at hx
      exact .inl (List.mem_of_mem_filter hx)
  | uninstallPlugin groupType plugin =>
    change x ∈ (s.uninstallPlugin groupType plugin).2.relations.relations at hx
    rcases s.uninstallPlugin_cases groupType plugin with hu | ⟨rs, hu⟩
    · rw [hu] at hx
      exact .inl hx
    · rw [hu] at hx
      exact .inl ((s.warm.relations_deleteAll rs).subset hx)

/-- The relation goes back to a draft, from which it has its group type, its plugin and its relation
bundle. -/
def Drafted (x : Relation) : Prop :=
  ∃ (s s' : Store) (entity group : Entity) (r : Relation), s.Reachable ∧
    s.draft entity group x.plugin = (.ok r, s') ∧ r.groupType = x.groupType ∧
    r.contentType = x.contentType

theorem Enters.drafted (h : s.Enters x) (hs : s.Reachable) : Drafted x := by
  obtain ⟨entity, group, i, hjoins, hgroupType⟩ := h
  obtain ⟨r, s', hdraft, -, hlink⟩ := draft_of_joins hjoins
  obtain ⟨_, hd⟩ := drafts_of_draft hdraft
  exact ⟨s, s', entity, group, r, hs, hdraft, hd.groupType.trans hgroupType.symm,
    congrArg Link.contentType hlink⟩

theorem Drafted.contentType_eq (h : Drafted x) :
    x.contentType = contentTypeId x.groupType x.plugin := by
  obtain ⟨s, s', entity, group, r, hs, hdraft, hgroupType, hct⟩ := h
  obtain ⟨i, hd⟩ := drafts_of_draft hdraft
  obtain ⟨-, hgroup, hplugin⟩ := hs.sound.registry.installed.lists hd.installed
  rw [← hct, hd.contentType, Installation.contentType, hgroup, hplugin, ← hgroupType, hd.groupType]

theorem drafted_of_run {start : Store} (hstart : start.Reachable)
    (hempty : start.relations.relations = []) (ops : List Operation) :
    (ops.foldl perform start).Reachable ∧
      ∀ x ∈ (ops.foldl perform start).relations.relations, Drafted x := by
  refine List.foldlRecOn (motive := fun s => s.Reachable ∧ ∀ x ∈ s.relations.relations, Drafted x)
    ops perform ⟨hstart, fun x hx => ?_⟩ ?_
  · rw [hempty] at hx
    cases hx
  · rintro s ⟨hs, hd⟩ op -
    refine ⟨hs.perform op, fun x hx => ?_⟩
    rcases enters_of_mem_perform hs op hx with hold | henters
    · exact hd x hold
    · exact henters.drafted hs

end Grouping.Store
