import Grouping.Proofs.Counting

/-! # Limits hold over whole runs

In a run, drafts of current entities and edits of stored relations are saved with validation, and
relations and entities come and go. Only a draft adds a link, and only after both counts were found
below the limits of its installation; so no limit is ever exceeded.
-/

namespace Grouping

namespace Relation

/-- The relations differ at most in owner, label and roles. -/
def EditOf (r old : Relation) : Prop :=
  r = { old with owner := r.owner, label := r.label, roles := r.roles }

variable {r old : Relation}

theorem EditOf.link (h : r.EditOf old) : r.link = old.link := by
  rw [h]
  rfl

theorem EditOf.id (h : r.EditOf old) : r.id = old.id := by
  rw [h]

end Relation

namespace Store

/-- An entity handed in is the one that is stored under its key. -/
def IsCurrent (s : Store) (e : Entity) : Prop :=
  ∀ k, e.key? = some k → s.entities.load k = some e

/-- The groups that are stored have the bundles that belong to their ids. -/
def BundlesAre (s : Store) (bundleOf : Int64 → String) : Prop :=
  ∀ g group, s.entities.load ⟨EntityTypeId.group, .int g⟩ = some group → group.bundle = bundleOf g

inductive ValidatedStep : Store → Store → Prop
  | addDraft {s s₁ : Store} {entity group : Entity} {plugin : String} {draft r : Relation} :
      s.IsCurrent entity → s.IsCurrent group → s.draft entity group plugin = (.ok draft, s₁) →
      r.EditOf draft → ValidatedStep s (s₁.saveValidated r).2
  | refuseDraft {s s₁ : Store} {entity group : Entity} {plugin : String} {f : Failure} :
      s.draft entity group plugin = (.error f, s₁) → ValidatedStep s s₁
  | resave {s : Store} {id : Int} {old r : Relation} :
      s.load id = some old → r.EditOf old → ValidatedStep s (s.saveValidated r).2
  | delete (s : Store) (r : Relation) : ValidatedStep s (s.delete r).2
  | deleteByGroup (s : Store) (group : Entity) : ValidatedStep s (s.deleteByGroup group).2
  | deleteByEntity (s : Store) (e : Entity) : ValidatedStep s (s.deleteByEntity e).2
  | saveEntity (s : Store) (e : Entity) : ValidatedStep s (s.saveEntity e).2
  | deleteEntity (s : Store) (k : EntityKey) :
      ValidatedStep s { s with entities := s.entities.delete k }
  | setClock (s : Store) (now : Instant) : ValidatedStep s { s with now }

/-- Runs of such steps, in all states of which a group id always belongs to the same bundle. -/
inductive ValidatedRun (bundleOf : Int64 → String) (start : Store) : Store → Prop
  | refl : start.BundlesAre bundleOf → ValidatedRun bundleOf start start
  | step {s s' : Store} : ValidatedRun bundleOf start s → ValidatedStep s s' →
      s'.BundlesAre bundleOf → ValidatedRun bundleOf start s'

/-- No limit of an installation is exceeded. -/
structure WithinLimits (s : Store) (bundleOf : Int64 → String) : Prop where
  entity : ∀ i, s.registry.installed.Lists i → 0 < i.entityLimit → ∀ g k,
    bundleOf g = i.groupType → s.relations.timesIn g i.plugin k ≤ i.entityLimit
  group : ∀ i, s.registry.installed.Lists i → 0 < i.groupLimit → ∀ k,
    (s.relations.groupsWith i.contentType k).length ≤ i.groupLimit

variable {s s' : Store} {bundleOf : Int64 → String}

theorem Sound.isCurrent (h : s.Sound) {k : EntityKey} {e : Entity}
    (he : s.entities.load k = some e) : s.IsCurrent e := by
  intro k' hk'
  rw [h.entities k e he] at hk'
  cases hk'
  exact he

theorem WithinLimits.of_links (h : s.WithinLimits bundleOf)
    (hreg : s'.registry.installed = s.registry.installed)
    (hlinks : s'.relations.links.Sublist s.relations.links) : s'.WithinLimits bundleOf where
  entity i hi hpos g k hg :=
    Nat.le_trans (RelationTable.timesIn_le hlinks g i.plugin k)
      (h.entity i (hreg ▸ hi) hpos g k hg)
  group i hi hpos k :=
    Nat.le_trans (RelationTable.length_groupsWith_le hlinks i.contentType k)
      (h.group i (hreg ▸ hi) hpos k)

theorem WithinLimits.of_relations_eq_nil (h : s.relations.relations = []) :
    s.WithinLimits bundleOf := by
  constructor
  · intro i _ _ g k _
    unfold RelationTable.timesIn
    rw [h]
    exact Nat.zero_le _
  · intro i _ _ k
    unfold RelationTable.groupsWith
    rw [h]
    exact Nat.zero_le _

theorem WithinLimits.of_agrees (h : s.WithinLimits bundleOf) (ha : s.Agrees s') :
    s'.WithinLimits bundleOf :=
  h.of_links ha.installed (by rw [ha.relations])

/-! ## Deletions -/

theorem links_deleteAll (s : Store) (rs : List Relation) :
    (s.deleteAll rs).2.relations.links.Sublist s.relations.links :=
  (s.relations_deleteAll rs).map _

theorem WithinLimits.deleteAll (h : s.WithinLimits bundleOf) (rs : List Relation) :
    (s.deleteAll rs).2.WithinLimits bundleOf :=
  h.of_links (by rw [registry_deleteAll]) (s.links_deleteAll rs)

/-! ## Saves -/

/-- A save adds the link of a draft; saving a stored relation with its old link adds none. -/
theorem Writes.links {r r' : Relation} {t : RelationTable} (hs : s.relations.Coherent)
    (h : s.Writes r r' t) :
    r.id = none ∧ t.links = s.relations.links ++ [r.link] ∨
      ∃ id old, r.id = some id ∧ s.load id = some old ∧
        (r.link = old.link → t.links = s.relations.links) := by
  cases h with
  | add i hid =>
    left
    refine ⟨hid, ?_⟩
    unfold RelationTable.links
    rw [RelationTable.relations_insert hs, List.map_append]
    rfl
  | rewrite i id old hid hold =>
    right
    refine ⟨id, old, hid, hold, fun hlink => ?_⟩
    exact RelationTable.map_relations_rewritten hold hlink

theorem WithinLimits.resave (h : s.WithinLimits bundleOf) (hs : s.Sound) {id : Int}
    {old r : Relation} (hold : s.load id = some old) (hr : r.EditOf old) :
    (s.saveValidated r).2.WithinLimits bundleOf := by
  rcases s.saveValidated_cases r with ⟨ha, -⟩ | ⟨r', t, s₁, -, hw, ha, hsave⟩
  · exact h.of_agrees ha
  · have hid : r.id = some id := by rw [hr.id, hs.relations.id_eq hold]
    rw [hsave]
    refine h.of_links ha.installed ?_
    rcases hw.links hs.relations with ⟨hnone, -⟩ | ⟨id', old', hid', hold', hlinks⟩
    · rw [hid] at hnone
      cases hnone
    · rw [hid] at hid'
      cases hid'
      rw [hold] at hold'
      cases hold'
      exact (hlinks hr.link) ▸ List.Sublist.refl _

/-- The limits of the installation allow one more relation with the link. -/
structure HasRoom (s : Store) (i : Installation) (l : Link) : Prop where
  contentType : l.contentType = i.contentType
  plugin : l.plugin = i.plugin
  entity : 0 < i.entityLimit → s.relations.timesIn l.group l.plugin l.key < i.entityLimit
  group : 0 < i.groupLimit → ∃ others : List Int64, others.length < i.groupLimit ∧
    ∀ g ∈ s.relations.groupsWith l.contentType l.key, g ≠ l.group → g ∈ others

theorem hasRoom_of_violations_eq_nil (hs : s.Sound) (hd : s.registry.installed.Distinct)
    {r : Relation} {i : Installation} {group target : Entity} (hid : r.id = none)
    (hi : s.registry.installed.Lists i) (hct : r.contentType = i.contentType)
    (hplugin : r.plugin = i.plugin) (hg : s.loadGroup r = some group)
    (ht : s.loadTarget r = some target) (h : (s.violations r).1 = .ok []) :
    s.HasRoom i r.link := by
  have hfound : s.registry.ofContentType? r.contentType = some i := by
    rw [hct]
    exact hs.registry.installed.get?_contentType hd hi
  obtain ⟨hgroups, hentity⟩ := counts_of_violations_eq_nil hs hfound hg ht h
  refine ⟨hct, hplugin, ?_, ?_⟩
  · intro hpos
    rw [length_counted_of_draft s hid] at hentity
    exact hentity hpos
  · intro hpos
    refine ⟨s.otherGroups r, hgroups hpos, ?_⟩
    intro g hg hne
    exact (mem_otherGroups_iff hs).mpr ⟨hg, hne⟩

/-- A link that an installation has room for breaks no limit: the installation counted it, and no
other one counts it. -/
theorem WithinLimits.append (h : s.WithinLimits bundleOf) (hd : s.registry.installed.Distinct)
    {i : Installation} {l : Link} (hi : s.registry.installed.Lists i)
    (hbundle : bundleOf l.group = i.groupType) (hroom : s.HasRoom i l)
    (hreg : s'.registry.installed = s.registry.installed)
    (hlinks : s'.relations.links = s.relations.links ++ [l]) : s'.WithinLimits bundleOf := by
  constructor
  · intro j hj hpos g k hg
    rw [hreg] at hj
    have hbefore := h.entity j hj hpos g k hg
    rw [RelationTable.timesIn_of_links_append hlinks]
    split
    · next hl =>
      -- group type and plugin single out the installation
      obtain ⟨rfl, hp, rfl⟩ := hl
      have hgt : i.groupType = j.groupType := hbundle.symm.trans hg
      have hpi : i.plugin = j.plugin := hroom.plugin.symm.trans hp
      have hji : j = i := by
        unfold InstalledMap.Lists at hi hj
        rw [hgt, hpi, hj] at hi
        exact Option.some.inj hi
      subst hji
      have hcount := hroom.entity hpos
      rw [hp] at hcount
      omega
    · omega
  · intro j hj hpos k
    rw [hreg] at hj
    by_cases hl : l.contentType = j.contentType ∧ l.key = k
    · -- the relation bundle singles it out only because bundles are distinct
      obtain ⟨hct, rfl⟩ := hl
      have hji : j = i := hd j i hj hi (hct.symm.trans hroom.contentType)
      subst hji
      obtain ⟨others, hcount, hothers⟩ := hroom.group hpos
      rw [hct] at hothers
      have hle := RelationTable.length_groupsWith_of_links_append hlinks _ _ others hothers
      omega
    · exact Nat.le_trans (RelationTable.groupsWith_of_links_append hlinks hl) (h.group j hj hpos k)

theorem WithinLimits.addDraft (h : s.WithinLimits bundleOf) (hs : s.Sound)
    (hd : s.registry.installed.Distinct) {r : Relation} {i : Installation} {group target : Entity}
    (hid : r.id = none) (hi : s.registry.installed.Lists i) (hct : r.contentType = i.contentType)
    (hplugin : r.plugin = i.plugin) (hbundle : bundleOf r.group = i.groupType)
    (hg : s.loadGroup r = some group) (ht : s.loadTarget r = some target) :
    (s.saveValidated r).2.WithinLimits bundleOf := by
  rcases s.saveValidated_cases r with ⟨ha, -⟩ | ⟨r', t, s₁, hnil, hw, ha, hsave⟩
  · exact h.of_agrees ha
  · have hroom := hasRoom_of_violations_eq_nil hs hd hid hi hct hplugin hg ht hnil
    rw [hsave]
    apply h.append hd hi hbundle hroom
    · exact ha.installed
    · rcases hw.links hs.relations with ⟨-, hlinks⟩ | ⟨id, old, hid', -⟩
      · exact hlinks
      · rw [hid] at hid'
        cases hid'

/-! ## Runs -/

theorem installed_saveValidated (s : Store) (r : Relation) :
    (s.saveValidated r).2.registry.installed = s.registry.installed := by
  rcases s.saveValidated_cases r with ⟨ha, -⟩ | ⟨r', t, s₁, -, -, ha, hsave⟩
  · exact ha.installed
  · rw [hsave]
    exact ha.installed

structure Running (s : Store) (m : InstalledMap) (bundleOf : Int64 → String) : Prop where
  reachable : s.Reachable
  installed : s.registry.installed = m
  withinLimits : s.WithinLimits bundleOf

variable {m : InstalledMap}

theorem Running.deleteAll (h : s.Running m bundleOf) (rs : List Relation) :
    (s.deleteAll rs).2.Running m bundleOf where
  reachable := h.reachable.deleteAll rs
  installed := by rw [registry_deleteAll, h.installed]
  withinLimits := h.withinLimits.deleteAll rs

theorem Running.of_agrees (h : s.Running m bundleOf) (ha : s.Agrees s') (hr : s'.Reachable) :
    s'.Running m bundleOf :=
  ⟨hr, ha.installed.trans h.installed, h.withinLimits.of_agrees ha⟩

theorem Running.addDraft (h : s.Running m bundleOf) (hm : m.Distinct)
    (hb : s.BundlesAre bundleOf) {s₁ : Store} {entity group : Entity} {plugin : String}
    {draft r : Relation} (he : s.IsCurrent entity) (hg : s.IsCurrent group)
    (hdraft : s.draft entity group plugin = (.ok draft, s₁)) (hr : r.EditOf draft) :
    (s₁.saveValidated r).2.Running m bundleOf := by
  obtain ⟨i, hd⟩ := drafts_of_draft hdraft
  have ha := s.agrees_draft entity group plugin
  have hreach := h.reachable.draft entity group plugin
  rw [hdraft] at ha hreach
  have hlink : r.link = draft.link := hr.link
  have hgr : r.group = draft.group := congrArg Link.group hlink
  have hkey : r.key = draft.key := congrArg Link.key hlink
  have hgroup : s.entities.load ⟨EntityTypeId.group, .int r.group⟩ = some group := by
    rw [hgr]
    exact hg _ hd.groupKey
  have htarget : s.entities.load r.key = some entity := by
    rw [hkey]
    exact he _ hd.key?
  obtain ⟨hlists, hgt, hp⟩ := h.reachable.sound.registry.installed.lists hd.installed
  have h₁ := h.of_agrees ha hreach
  refine ⟨hreach.saveValidated r, (s₁.installed_saveValidated r).trans h₁.installed, ?_⟩
  apply h₁.withinLimits.addDraft hreach.sound (h₁.installed ▸ hm)
  · rw [hr.id, hd.isDraft]
  · rw [ha.installed]
    exact hlists
  · exact (congrArg Link.contentType hlink).trans hd.contentType
  · exact (congrArg Link.plugin hlink).trans (hd.plugin_eq.trans hp.symm)
  · rw [← hb _ _ hgroup, hgt]
  · unfold loadGroup
    rw [ha.entities]
    exact hgroup
  · unfold loadTarget
    rw [ha.entities]
    exact htarget

theorem ValidatedStep.running (h : ValidatedStep s s') (hm : m.Distinct)
    (hb : s.BundlesAre bundleOf) (hs : s.Running m bundleOf) : s'.Running m bundleOf := by
  cases h with
  | addDraft he hg hdraft hr => exact hs.addDraft hm hb he hg hdraft hr
  | @refuseDraft _ entity group plugin f hdraft =>
    have ha := s.agrees_draft entity group plugin
    have hreach := hs.reachable.draft entity group plugin
    rw [hdraft] at ha hreach
    exact hs.of_agrees ha hreach
  | @resave id old r hold hr =>
    exact ⟨hs.reachable.saveValidated r, (s.installed_saveValidated r).trans hs.installed,
      hs.withinLimits.resave hs.reachable.sound hold hr⟩
  | delete r => exact hs.deleteAll [r]
  | deleteByGroup group =>
    unfold Store.deleteByGroup
    split
    · exact hs
    · exact hs.deleteAll _
  | deleteByEntity e =>
    unfold Store.deleteByEntity
    split
    · exact hs
    · exact hs.deleteAll _
  | saveEntity e =>
    refine ⟨hs.reachable.saveEntity e, ?_, ?_⟩
    · unfold Store.saveEntity
      split
      · exact hs.installed
      · exact hs.installed
    · unfold Store.saveEntity
      split
      · exact hs.withinLimits
      · exact hs.withinLimits.of_links rfl (.refl _)
  | deleteEntity k =>
    exact ⟨hs.reachable.step (.deleteEntity s k), hs.installed, hs.withinLimits.of_links rfl (.refl _)⟩
  | setClock now =>
    exact ⟨hs.reachable.step (.setClock s now), hs.installed, hs.withinLimits.of_links rfl (.refl _)⟩

theorem ValidatedRun.running {start : Store} (h : ValidatedRun bundleOf start s)
    (hm : m.Distinct) (hs : start.Running m bundleOf) : s.Running m bundleOf := by
  suffices hboth : s.Running m bundleOf ∧ s.BundlesAre bundleOf from hboth.1
  induction h with
  | refl hb => exact ⟨hs, hb⟩
  | step _ hstep hb ih => exact ⟨hstep.running hm ih.2 ih.1, hb⟩

/-- Throughout a run that starts without relations, a target is in a group through a plugin at most
as often, and through a relation bundle in at most as many groups, as the installation allows. -/
theorem counts_le_of_validatedRun {start : Store} (hstart : start.Reachable)
    (hempty : start.relations.relations = []) (hd : start.registry.installed.Distinct)
    (h : ValidatedRun bundleOf start s) {i : Installation}
    (hi : start.registry.installed.Lists i) :
    (0 < i.entityLimit → ∀ g k, bundleOf g = i.groupType →
      s.relations.timesIn g i.plugin k ≤ i.entityLimit) ∧
    (0 < i.groupLimit → ∀ k,
      (s.relations.groupsWith i.contentType k).length ≤ i.groupLimit) := by
  have hlimits : start.WithinLimits bundleOf := .of_relations_eq_nil hempty
  have hrun := h.running hd ⟨hstart, rfl, hlimits⟩
  have hi : s.registry.installed.Lists i := hrun.installed ▸ hi
  constructor
  · intro hpos g k hg
    exact hrun.withinLimits.entity i hi hpos g k hg
  · intro hpos k
    exact hrun.withinLimits.group i hi hpos k

theorem distinct_club : club.registry.installed.Distinct := by
  have h : ∀ i, club.registry.installed.Lists i →
      i = ⟨"club", .membership, { groupLimit := 1, entityLimit := 1 }⟩ := by
    intro i hi
    change ((if "club" = i.groupType then _ else none : Option InstalledPlugins).getD ∅).get?
      i.plugin = some i at hi
    split at hi
    · change (if PluginId.membership = i.plugin then _ else none) = some i at hi
      split at hi
      · exact (Option.some.inj hi).symm
      · cases hi
    · cases hi
  intro i j hi hj _
  rw [h i hi, h j hj]

theorem bundlesAre_club : club.BundlesAre fun _ => "club" := by
  have h : club.entities.rows.All fun k e => k.type = EntityTypeId.group → e.bundle = "club" :=
    (OrderedMap.all_empty.insert fun _ => rfl).insert (by decide)
  intro g group hg
  exact h _ _ hg rfl

/-- A user who joined a club is refused the second time. -/
theorem counts_le_after_joining_twice : ∃ (s : Store) (i : Installation),
    ValidatedRun (fun _ => "club") club s ∧ club.registry.installed.Lists i ∧
      s.relations.size = 1 ∧
      s.relations.timesIn 1 i.plugin ⟨EntityTypeId.user, .int 1⟩ ≤ 1 ∧
      (s.relations.groupsWith i.contentType ⟨EntityTypeId.user, .int 1⟩).length ≤ 1 := by
  let i : Installation := ⟨"club", .membership, { groupLimit := 1, entityLimit := 1 }⟩
  have hi : club.registry.installed.Lists i := rfl
  obtain ⟨group, hg⟩ : ∃ e, club.entities.load ⟨EntityTypeId.group, .int 1⟩ = some e := ⟨_, rfl⟩
  obtain ⟨user, hu⟩ : ∃ e, club.entities.load ⟨EntityTypeId.user, .int 1⟩ = some e := ⟨_, rfl⟩
  have hjoin : ∀ s, ValidatedRun (fun _ => "club") club s → s.entities = club.entities →
      ∀ draft s₁, s.draft user group PluginId.membership = (.ok draft, s₁) →
        (s₁.saveValidated draft).2.entities = club.entities →
        ValidatedRun (fun _ => "club") club (s₁.saveValidated draft).2 := by
    intro s hrun hentities draft s₁ hdraft hentities'
    have hcurrent : ∀ {k e}, club.entities.load k = some e → s.IsCurrent e := by
      intro k e he
      unfold IsCurrent
      rw [hentities]
      exact reachable_club.sound.isCurrent he
    refine hrun.step (.addDraft (hcurrent hu) (hcurrent hg) hdraft rfl) ?_
    unfold BundlesAre
    rw [hentities']
    exact bundlesAre_club
  cases hg
  cases hu
  have h₁ := hjoin club (.refl bundlesAre_club) rfl _ _ rfl rfl
  have h₂ := hjoin _ h₁ rfl _ _ rfl rfl
  have hcounts := counts_le_of_validatedRun reachable_club rfl distinct_club h₂ hi
  exact ⟨_, i, h₂, hi, rfl, hcounts.1 (by decide) 1 _ rfl, hcounts.2 (by decide) _⟩

end Store

end Grouping
