import Grouping.Proofs.Limits
import Grouping.Proofs.Refusal

/-! # Stored relations can be saved again

A stored relation is among those that the limits count. When it is saved again both counts leave it
out, one by its group and the other by its id, so that they stay below limits that were never exceeded.
The save changes the label and the date of the last change, and nothing else.
-/

namespace Grouping

/-- An installation for the bundle of the link's group backs the link. -/
def InstalledMap.Places (m : InstalledMap) (bundleOf : Int64 → String) (l : Link) : Prop :=
  ∃ i, m.Lists i ∧ i.contentType = l.contentType ∧ i.plugin = l.plugin ∧
    i.groupType = bundleOf l.group

namespace Store

variable {s s' start : Store} {m : InstalledMap} {bundleOf : Int64 → String} {r : Relation}
  {i : Installation} {id : Int}

/-! ## Counts without the relation itself -/

theorem length_otherGroups_lt (hs : s.Sound) (h : r ∈ s.relations.relations) :
    (s.otherGroups r).length < (s.relations.groupsWith r.contentType r.key).length := by
  have hgroup : r.group ∈ s.relations.groupsWith r.contentType r.key :=
    RelationTable.mem_groupsWith_iff.mpr ⟨r.link, List.mem_map_of_mem h, rfl, rfl, rfl⟩
  rw [length_otherGroups hs]
  refine List.length_filter_lt_length_iff_exists.mpr ⟨r.group, hgroup, ?_⟩
  simp [Relation.link]

theorem length_counted_lt (h : r ∈ s.relations.relations) (hid : r.id = some id) :
    (s.counted r).length < s.relations.timesIn r.group r.plugin r.key := by
  have hcounted : s.counted r = (s.relations.relations.filter fun x =>
      x.group = r.group ∧ x.plugin = r.plugin ∧ x.key = r.key).filter fun x => x.id ≠ r.id := by
    rw [List.filter_filter]
    refine List.filter_congr fun x _ => ?_
    simp [hid, and_comm]
  have hr : r ∈ s.relations.relations.filter fun x =>
      x.group = r.group ∧ x.plugin = r.plugin ∧ x.key = r.key := by
    simp [h]
  rw [hcounted]
  exact List.length_filter_lt_length_iff_exists.mpr ⟨r, hr, by simp⟩

theorem violations_of_withinLimits (hs : s.Sound) (h : s.WithinLimits bundleOf)
    (hr : s.load id = some r) (hi : s.registry.installed.Lists i)
    (hfound : s.registry.ofContentType? r.contentType = some i)
    (hct : i.contentType = r.contentType) (hplugin : i.plugin = r.plugin)
    (hbundle : i.groupType = bundleOf r.group) : (s.violations r).1 = .ok [] := by
  have hmem : r ∈ s.relations.relations := RelationTable.mem_relations_iff.mpr ⟨id, hr⟩
  by_cases hres : ∃ i group target, s.registry.ofContentType? r.contentType = some i ∧
      s.loadGroup r = some group ∧ s.loadTarget r = some target
  · obtain ⟨j, group, target, hj, hg, ht⟩ := hres
    cases hfound.symm.trans hj
    obtain ⟨label, hv⟩ := violations_eq hs hfound hg ht
    have hgroup : ¬ (0 < i.groupLimit ∧ i.groupLimit ≤ (s.otherGroups r).length) := by
      rintro ⟨hpos, hle⟩
      have hlimit := h.group i hi hpos r.key
      have hlt := length_otherGroups_lt hs hmem
      rw [hct] at hlimit
      omega
    have hentity : ¬ (0 < i.entityLimit ∧ i.entityLimit ≤ (s.counted r).length) := by
      rintro ⟨hpos, hle⟩
      have hlimit := h.entity i hi hpos r.group r.key hbundle.symm
      have hlt := length_counted_lt hmem (hs.relations.id_eq hr)
      rw [hplugin] at hlimit
      omega
    rw [hv, if_neg hgroup, if_neg hentity]
    rfl
  · exact violations_unresolved hres

/-- A stored relation that breaks no limit is written over itself. -/
theorem saveValidated_of_violations_eq_nil (hs : s.Sound) (hr : s.load id = some r)
    (hi : s.registry.ofContentType? r.contentType = some i) (hnil : (s.violations r).1 = .ok []) :
    (s.saveValidated r).1 = .ok (.saved (s.stamped i r)) ∧
      ∀ j, (s.saveValidated r).2.load j = if id = j then some (s.stamped i r) else s.load j := by
  have hid := hs.relations.id_eq hr
  rcases s.saveValidated_cases r with ⟨-, hno⟩ | ⟨r', t, s₁, -, hw, -, hsave⟩
  · exfalso
    cases hanswer : (s.saveValidated r).1 with
    | error f =>
      rcases refuses_of_saveValidated hs hanswer with hnone | ⟨-, hid', hrow⟩ | ⟨-, hid', hold, hne⟩
      · simp [hi] at hnone
      · cases hid.symm.trans hid'
        simp [hr] at hrow
      · cases hid.symm.trans hid'
        cases hr.symm.trans hold
        exact hne rfl
    | ok saving =>
      cases saving with
      | saved r' => exact hno r' hanswer
      | refused vs =>
        obtain ⟨hvs, hne⟩ := saveValidated_eq_refused_iff.mp hanswer
        cases hnil.symm.trans hvs
        exact hne rfl
  · rw [hsave]
    cases hw with
    | add j hnone => simp [hid] at hnone
    | rewrite j id' old hid' hold _ hj =>
      cases hid.symm.trans hid'
      cases hr.symm.trans hold
      cases hi.symm.trans hj
      exact ⟨rfl, RelationTable.get?_rewritten id r (s.stamped i r)⟩

/-! ## Every link has its installation -/

theorem mem_links_saveValidated (hs : s.relations.Coherent) {l : Link}
    (hl : l ∈ (s.saveValidated r).2.relations.links) : l ∈ s.relations.links ∨ l = r.link := by
  rcases s.saveValidated_cases r with ⟨ha, -⟩ | ⟨r', t, s₁, -, hw, -, hsave⟩
  · exact .inl (ha.relations ▸ hl)
  · rw [hsave] at hl
    obtain ⟨x, hx, rfl⟩ := List.mem_map.mp hl
    refine (hw.mem_cases hs hx).imp List.mem_map_of_mem ?_
    rintro rfl
    cases hw with
    | add i => rfl
    | rewrite i id old => rfl

theorem Drafts.places {entity group : Entity} {plugin : String} {draft : Relation}
    (hs : s.Sound) (h : s.Drafts entity group plugin draft i)
    (hgroup : group.bundle = bundleOf draft.group) :
    s.registry.installed.Places bundleOf draft.link := by
  obtain ⟨hlists, hgt, hp⟩ := hs.registry.installed.lists h.installed
  exact ⟨i, hlists, h.contentType.symm, hp.trans h.plugin_eq.symm, hgt.trans hgroup⟩

/-- Only a draft brings a new link, and the installation behind it is that of the draft. -/
theorem ValidatedStep.link_cases (h : ValidatedStep s s') (hs : s.Sound)
    (hb : s.BundlesAre bundleOf) {l : Link} (hl : l ∈ s'.relations.links) :
    l ∈ s.relations.links ∨ s.registry.installed.Places bundleOf l := by
  cases h with
  | @addDraft s₁ entity group plugin draft r he hg hdraft hr =>
    obtain ⟨i, hd⟩ := drafts_of_draft hdraft
    have ha := s.agrees_draft entity group plugin
    rw [hdraft] at ha
    have hgroup : group.bundle = bundleOf draft.group := hb _ _ (hg _ hd.groupKey)
    have hs₁ : s₁.relations.Coherent := ha.relations ▸ hs.relations
    refine (mem_links_saveValidated hs₁ hl).imp (ha.relations ▸ ·) ?_
    rintro rfl
    exact hr.link ▸ hd.places hs hgroup
  | @refuseDraft _ entity group plugin f hdraft =>
    have ha := s.agrees_draft entity group plugin
    rw [hdraft] at ha
    exact .inl (ha.relations ▸ hl)
  | @resave id old r hold hr =>
    left
    rcases mem_links_saveValidated hs.relations hl with hl | rfl
    · exact hl
    · rw [hr.link]
      exact List.mem_map_of_mem (RelationTable.mem_relations_iff.mpr ⟨id, hold⟩)
  | delete r => exact .inl ((s.links_deleteAll [r]).subset hl)
  | deleteByGroup group =>
    left
    unfold Store.deleteByGroup at hl
    split at hl
    · exact hl
    · exact (s.links_deleteAll _).subset hl
  | deleteByEntity e =>
    left
    unfold Store.deleteByEntity at hl
    split at hl
    · exact hl
    · exact (s.links_deleteAll _).subset hl
  | saveEntity e =>
    left
    unfold Store.saveEntity at hl
    split at hl
    · exact hl
    · exact hl
  | deleteEntity k => exact .inl hl
  | setClock now => exact .inl hl

/-- Validated runs in which all relations of a relation bundle may be deleted, too. -/
inductive PurgingRun (bundleOf : Int64 → String) (start : Store) : Store → Prop
  | refl : start.BundlesAre bundleOf → PurgingRun bundleOf start start
  | step {s s' : Store} : PurgingRun bundleOf start s → ValidatedStep s s' →
      s'.BundlesAre bundleOf → PurgingRun bundleOf start s'
  | deleteByContentType {s : Store} (contentType : String) : PurgingRun bundleOf start s →
      PurgingRun bundleOf start (s.deleteByContentType contentType).2

/-- What such a run keeps up. -/
structure Orderly (s : Store) (m : InstalledMap) (bundleOf : Int64 → String) : Prop
    extends s.Running m bundleOf where
  bundlesAre : s.BundlesAre bundleOf
  places : ∀ l ∈ s.relations.links, m.Places bundleOf l

theorem Orderly.deleteAll (h : s.Orderly m bundleOf) (rs : List Relation) :
    (s.deleteAll rs).2.Orderly m bundleOf where
  toRunning := h.toRunning.deleteAll rs
  bundlesAre := by
    unfold BundlesAre
    rw [entities_deleteAll]
    exact h.bundlesAre
  places l hl := h.places l ((s.links_deleteAll rs).subset hl)

theorem ValidatedStep.orderly (h : ValidatedStep s s') (hm : m.Distinct)
    (hb : s'.BundlesAre bundleOf) (hs : s.Orderly m bundleOf) : s'.Orderly m bundleOf where
  toRunning := h.running hm hs.bundlesAre hs.toRunning
  bundlesAre := hb
  places l hl := by
    rcases h.link_cases hs.reachable.sound hs.bundlesAre hl with hold | hnew
    · exact hs.places l hold
    · exact hs.installed ▸ hnew

theorem PurgingRun.orderly (h : PurgingRun bundleOf start s) (hstart : start.Reachable)
    (hempty : start.relations.relations = []) (hd : start.registry.installed.Distinct) :
    s.Orderly start.registry.installed bundleOf := by
  induction h with
  | refl hb =>
    refine ⟨⟨hstart, rfl, .of_relations_eq_nil hempty⟩, hb, fun l hl => ?_⟩
    simp [RelationTable.links, hempty] at hl
  | step _ hstep hb ih => exact hstep.orderly hd hb ih
  | deleteByContentType contentType _ ih => exact ih.deleteAll _

/-- In a run that starts without relations, saving a stored relation again is never refused. The row
gets a new label and a new date of change, and the other rows stay as they are. -/
theorem saveValidated_stored (hstart : start.Reachable) (hempty : start.relations.relations = [])
    (hd : start.registry.installed.Distinct) (h : PurgingRun bundleOf start s)
    (hr : s.load id = some r) : ∃ i r', s.registry.ofContentType? r.contentType = some i ∧
      r' = { r with label := s.labelFor i r, changed := s.now } ∧ r'.id = some id ∧
      (s.saveValidated r).1 = .ok (.saved r') ∧
      ∀ j, (s.saveValidated r).2.load j = if id = j then some r' else s.load j := by
  have hs := h.orderly hstart hempty hd
  have hsound := hs.reachable.sound
  have hid := hsound.relations.id_eq hr
  have hlink : r.link ∈ s.relations.links :=
    List.mem_map_of_mem (RelationTable.mem_relations_iff.mpr ⟨id, hr⟩)
  obtain ⟨i, hi, hct, hplugin, hbundle⟩ := hs.places _ hlink
  rw [← hs.installed] at hi hd
  have hfound : s.registry.ofContentType? r.contentType = some i := by
    rw [← show i.contentType = r.contentType from hct]
    exact hsound.registry.installed.get?_contentType hd hi
  have hnil := violations_of_withinLimits hsound hs.withinLimits hr hi hfound hct hplugin hbundle
  obtain ⟨hsaved, hload⟩ := saveValidated_of_violations_eq_nil hsound hr hfound hnil
  exact ⟨i, _, hfound, rfl, hid, hsaved, hload⟩

/-- A user who joined the only club that it may join, once, is saved again later. -/
theorem saveValidated_stored_atLimits : ∃ s i r, PurgingRun (fun _ => "club") club s ∧
    s.registry.ofContentType? r.contentType = some i ∧ s.load 1 = some r ∧
    s.relations.timesIn r.group r.plugin r.key = i.entityLimit ∧
    (s.relations.groupsWith r.contentType r.key).length = i.groupLimit ∧
    (s.saveValidated r).1 = .ok (.saved { r with label := s.labelFor i r, changed := ⟨5, 0⟩ }) := by
  obtain ⟨group, hg⟩ : ∃ e, club.entities.load ⟨EntityTypeId.group, .int 1⟩ = some e := ⟨_, rfl⟩
  obtain ⟨user, hu⟩ : ∃ e, club.entities.load ⟨EntityTypeId.user, .int 1⟩ = some e := ⟨_, rfl⟩
  have hgroup := reachable_club.sound.isCurrent hg
  have huser := reachable_club.sound.isCurrent hu
  have hjoin : ∀ draft s, club.draft user group PluginId.membership = (.ok draft, s) →
      ValidatedStep club (s.saveValidated draft).2 := fun _ _ h => .addDraft huser hgroup h rfl
  cases hg
  cases hu
  have hrun := (PurgingRun.refl bundlesAre_club).step (hjoin _ _ rfl) bundlesAre_club
  have hlater := hrun.step (.setClock _ ⟨5, 0⟩) bundlesAre_club
  obtain ⟨i, r', hi, rfl, -, hsaved, -⟩ :=
    saveValidated_stored reachable_club rfl distinct_club hlater (show load _ 1 = some _ from rfl)
  refine ⟨_, i, _, hlater, hi, rfl, ?_, ?_, hsaved⟩
  · cases hi
    decide
  · cases hi
    decide

end Store

end Grouping
