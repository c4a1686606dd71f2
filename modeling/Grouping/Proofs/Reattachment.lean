import Grouping.Proofs.AssignmentRun

/-! # Attaching again

Attaching the media of an entity a second time does nothing: the groups and the media are the same as
before, and every group that took an item is full for it now.
-/

namespace Grouping

/-! ## Finding media changes no hooks -/

/-- Where asking about inclusion changes nothing, the search changes no hooks. -/
def Search.Quiet (f : Search) : Prop :=
  ∀ x h e, h.inclusion.IsPlain → (f x h e).2 = h

theorem Hooks.shouldInclude_of_isPlain {h : Hooks} (hp : h.inclusion.IsPlain) (media host : Entity)
    (field : String) : (h.shouldInclude media host field).2 = h := by
  obtain ⟨hhook, hnotes⟩ := hp.call ⟨media, host, field⟩ {}
  unfold shouldInclude
  dsimp only
  rw [hhook, hnotes, List.append_nil]

namespace Media

theorem Embed.keep_of_isPlain {h : Hooks} (hp : h.inclusion.IsPlain) (host : Entity)
    (found : List EntityKey) (l : List Occurrence) : (keep host found h l).2 = h := by
  induction l generalizing found with
  | nil => rfl
  | cons o l ih =>
    obtain ⟨m, field⟩ := o
    have hsame := Hooks.shouldInclude_of_isPlain hp m host field
    unfold keep
    rcases hasked : h.shouldInclude m host field with ⟨allowed, h'⟩
    rw [hasked] at hsame
    obtain rfl : h' = h := hsame
    cases allowed with
    | false => exact ih found
    | true =>
      cases m.key? with
      | none => exact ih found
      | some k =>
        dsimp only
        split
        · exact ih found
        · exact ih (k :: found)

theorem Embed.quiet_finder (id label element : String) : (finder id label element).search.Quiet :=
  fun _ _ _ hp => keep_of_isPlain hp _ _ _

end Media

namespace FinderList

theorem quiet_standard : ∀ f ∈ standard, f.search.Quiet := by
  intro f hf
  simp only [standard, List.mem_cons, List.not_mem_nil, or_false] at hf
  rcases hf with rfl | rfl | rfl | rfl
  · exact fun _ _ _ _ => rfl
  · exact fun _ _ _ _ => rfl
  · exact Media.Embed.quiet_finder _ _ _
  · exact Media.Embed.quiet_finder _ _ _

theorem quiet_process {l : FinderList} (hl : ∀ f ∈ l, f.search.Quiet) : Search.Quiet l.process := by
  intro x h e hp
  induction l with
  | nil => rfl
  | cons f l ih =>
    obtain ⟨hf, hl⟩ := List.forall_mem_cons.mp hl
    have hsame := hf x h e hp
    unfold process
    split
    · rcases hfound : f.search x h e with ⟨found, h'⟩
      rw [hfound] at hsame
      obtain rfl : h' = h := hsame
      exact ih hl
    · exact ih hl

end FinderList

/-- A media item is in a group at most once through the plugin for its bundle. -/
def InstalledMap.MediaOnce (m : InstalledMap) : Prop :=
  ∀ i, m.Lists i → ∀ b, i.plugin = PluginId.media b → i.entityLimit = 1

namespace Site

/-- The standard finders, hooks that only answer, and none that edits the groups. -/
structure Settled (s : Site) : Prop where
  finders : s.finders = .standard
  groups : s.hooks.groups = []
  attach : s.hooks.attach.IsPlain
  inclusion : s.hooks.inclusion.IsPlain

variable {s s' s'' s₁ : Site} {policy : AssignPolicy} {e item group : Entity} {k : EntityKey}
  {l l' : Link} {r : Relation} {rs : List Relation} {ps : List (Entity × Entity)}
  {groups : List Entity}

theorem Settled.media (h : s.Settled) (e : Entity) : (s.media e).2 = s := by
  have hsame := FinderList.quiet_process FinderList.quiet_standard s.store.entities s.hooks e
    h.inclusion
  unfold Site.media
  rw [h.finders]
  dsimp only
  rw [hsame, ← h.finders]

theorem Settled.contentGroups (h : s.Settled) (e : Entity) :
    s.contentGroups e = (s.groupsOf e, s) := by
  have hedit : ∀ groups, s.alterGroups groups e = (groups, s) := by
    intro groups
    unfold alterGroups Hooks.alterGroups
    rw [h.groups]
    change (groups, ({ s with hooks := { s.hooks with groups := [], notes := s.hooks.notes ++ [] } }
      : Site)) = _
    rw [List.append_nil, ← h.groups]
  unfold Site.contentGroups
  cases s.groupsOf e with
  | error f => rfl
  | ok groups =>
    dsimp only
    rw [hedit]

/-- The pairs that an attachment goes through, given the groups. -/
def mediaPairs (s : Site) (e : Entity) (groups : List Entity) : List (Entity × Entity) :=
  (s.media e).1.flatMap (s.pairsOf .tracked groups)

/-- An attachment that tracks and finds the groups is a run. -/
theorem assigns_attach (hs : s.store.Reachable) (hc : s.Settled) (ht : s.settings.tracking = true)
    (hgroups : s.groupsOf e = .ok groups) :
    ∃ rs s', s.attach e = (.ok rs, s') ∧ s'.store.Reachable ∧
      s.Assigns .tracked (s.mediaPairs e groups) rs s' := by
  have hmedia := hc.media e
  unfold attach mediaPairs
  rw [if_neg (not_not_intro ht), hc.contentGroups, hgroups]
  cases groups with
  | nil =>
    refine ⟨[], s, rfl, hs, ?_⟩
    have hnone : (s.media e).1.flatMap (s.pairsOf .tracked []) = [] := by
      rw [List.flatMap_eq_nil_iff]
      intro item _
      exact ite_self []
    rw [hnone]
    exact .done (.refl s)
  | cons group groups =>
    dsimp only
    rcases hfound : s.media e with ⟨items, s₁⟩
    rw [hfound] at hmedia
    obtain rfl : s₁ = s := hmedia
    cases items with
    | nil => exact ⟨[], s₁, rfl, hs, .done (.refl s₁)⟩
    | cons item items => exact assigns_assign hs hc.attach .tracked _ _

/-! ## Full groups -/

theorem Takes.link_eq (h : s.Takes policy item group l) (h' : s.Takes policy item group l') :
    l = l' := by
  obtain ⟨i, hj, -⟩ := h.admits
  obtain ⟨j, hj', -⟩ := h'.admits
  exact (hj.unique hj').2

theorem Gains.not_takes (h : s.Gains s₁ r) (hs : s.store.Reachable)
    (hm : s.store.registry.installed.MediaOnce) (ht : s.Takes policy item group r.link) :
    ¬ s₁.Takes policy item group l := by
  intro ht₁
  have hgrows := h.grows hs
  -- a pair has one link, and the new relation counts for it
  obtain rfl : r.link = l := ht.link_eq (hgrows.takes ht₁)
  obtain ⟨i, hj, -, hadmits⟩ := ht₁.admits
  have hindexed := hs.sound.registry.installed
  obtain ⟨hlists, -, hplugin⟩ := hindexed.lists (hj.congr hgrows.installed.symm).installed
  have hlimit := hm i hlists item.bundle hplugin
  have hcount := hadmits.entity (by omega)
  rw [RelationTable.timesIn_of_links_append (h.store.links hs.sound),
    if_pos ⟨rfl, rfl, rfl⟩] at hcount
  omega

/-- After a run every pair of it is passed over. -/
theorem Assigns.not_takes (h : s.Assigns policy ps rs s') (hs : s.store.Reachable)
    (hm : s.store.registry.installed.MediaOnce) :
    ∀ p ∈ ps, ∀ l, ¬ s'.Takes policy p.1 p.2 l := by
  induction h with
  | done _ => exact fun p hp => absurd hp List.not_mem_nil
  | skip hr ha hno hrest ih =>
    -- what was passed over stays so, because relations were only added
    refine List.forall_mem_cons.mpr ⟨fun l ht => ?_, ih hr (ha.store.installed ▸ hm)⟩
    exact hno l (ha.grows.takes ((hrest.grows hr).takes ht))
  | add hr hg ht hrest ih =>
    refine List.forall_mem_cons.mpr ⟨fun l ht' => ?_, ih hr (hg.store.installed ▸ hm)⟩
    exact hg.not_takes hs hm ht ((hrest.grows hr).takes ht')

theorem Assigns.eq_nil (h : s.Assigns policy ps rs s')
    (hno : ∀ p ∈ ps, ∀ l, ¬ s.Takes policy p.1 p.2 l) : rs = [] ∧ s.Agrees s' := by
  induction h with
  | done ha => exact ⟨rfl, ha⟩
  | skip hr ha _ _ ih =>
    have hno' := fun p hp l ht => hno p (List.mem_cons_of_mem _ hp) l (ha.grows.takes ht)
    obtain ⟨rfl, hlast⟩ := ih hno'
    exact ⟨rfl, ha.trans hlast⟩
  | add _ _ ht _ _ => exact absurd ht (hno _ List.mem_cons_self _)

/-! ## The second attachment -/

theorem mem_mediaPairs {p : Entity × Entity} (h : p ∈ s.mediaPairs e groups) :
    p.1 ∈ (s.media e).1 ∧ s.isEligible .tracked p.1 = true ∧ p.2 ∈ groups := by
  obtain ⟨item, hitem, hp⟩ := List.mem_flatMap.mp h
  unfold pairsOf at hp
  split at hp
  · next heligible =>
    obtain ⟨group, hgroup, rfl⟩ := List.mem_map.mp hp
    exact ⟨hitem, heligible, hgroup⟩
  · exact absurd hp List.not_mem_nil

/-- The stored groups with a relation to the key. -/
def groupsHolding (s : Site) (k : EntityKey) : List Entity :=
  (distinct ((s.store.relations.rowsTo k).map Relation.group)).filterMap fun g =>
    s.store.entities.load ⟨EntityTypeId.group, .int g⟩

theorem groupsOf_content (hs : s.store.Reachable) (hgroup : ¬ e.isGroup = true)
    (hfieldable : e.fieldable = true) (hk : e.key? = some k) :
    s.groupsOf e = .ok (s.groupsHolding k) := by
  unfold groupsOf
  rw [if_neg hgroup, if_pos ⟨hfieldable, (Entity.key?_eq_some_iff.mp hk).1⟩,
    Store.byEntity_of_key hs.sound hk]
  rfl

/-- The relations that a run adds to the groups of an entity lead to no further groups. -/
theorem Assigns.groupsHolding_eq (h : s.Assigns policy ps rs s') (hs : s.store.Reachable)
    (hps : ∀ p ∈ ps, p.2 ∈ s.groupsHolding k) : s'.groupsHolding k = s.groupsHolding k := by
  have hgrows := h.grows hs
  have hrows : s'.store.relations.rowsTo k =
      s.store.relations.rowsTo k ++ rs.filter (fun r => r.key = k) := by
    unfold RelationTable.rowsTo
    rw [hgrows.relations, List.filter_append]
  have hsub : (rs.filter fun r => r.key = k).map Relation.group ⊆
      (s.store.relations.rowsTo k).map Relation.group := by
    intro g hg
    obtain ⟨r, hr, rfl⟩ := List.mem_map.mp hg
    obtain ⟨p, hp, ht⟩ := h.mem_pair hs (List.mem_filter.mp hr).1
    obtain ⟨g, hg, hload⟩ := List.mem_filterMap.mp (hps p hp)
    -- the group of the new relation was found by its key, so an old relation is in it too
    cases (hs.sound.entities _ _ hload).symm.trans ht.groupKey
    exact mem_distinct.mp hg
  unfold groupsHolding
  rw [hrows, List.map_append, distinct_append_of_subset hsub, hgrows.entities]

theorem Assigns.groupsOf_eq (h : s.Assigns policy ps rs s') (hs : s.store.Reachable)
    (hs' : s'.store.Reachable) (hgroups : s.groupsOf e = .ok groups)
    (hps : ∀ p ∈ ps, p.2 ∈ groups) : s'.groupsOf e = .ok groups := by
  by_cases hgroup : e.isGroup = true
  · rw [← hgroups]
    unfold groupsOf
    rw [if_pos hgroup, if_pos hgroup]
  · by_cases hsaved : e.fieldable = true ∧ e.saved = true
    · cases hk : e.key? with
      | none =>
        unfold groupsOf Store.byEntity at hgroups
        rw [if_neg hgroup, if_pos hsaved, hk] at hgroups
        cases hgroups
      | some k =>
        rw [groupsOf_content hs hgroup hsaved.1 hk] at hgroups
        cases hgroups
        rw [groupsOf_content hs' hgroup hsaved.1 hk, h.groupsHolding_eq hs hps]
    · rw [← hgroups]
      unfold groupsOf
      rw [if_neg hgroup, if_neg hsaved, if_neg hgroup, if_neg hsaved]

theorem Grows.settled (h : s.Grows rs s') (hc : s.Settled) : s'.Settled := by
  obtain ⟨hfinders, hgroups, hattach, hinclusion⟩ := hc
  rw [← h.finders] at hfinders
  rw [← h.hooks] at hgroups hattach hinclusion
  exact ⟨hfinders, hgroups, hattach, hinclusion⟩

theorem Grows.mediaPairs_eq (h : s.Grows rs s') (e : Entity) (groups : List Entity) :
    s'.mediaPairs e groups = s.mediaPairs e groups := by
  unfold mediaPairs Site.media
  rw [h.pairsOf_eq, h.finders, h.entities, h.hooks]

/-- A second attachment makes no relation and changes neither relations nor entities. -/
theorem attach_attach (hs : s.store.Reachable) (hc : s.Settled)
    (hm : s.store.registry.installed.MediaOnce) (h : s.attach e = (.ok rs, s')) :
    ∃ s'', s'.attach e = (.ok [], s'') ∧ s''.store.relations = s'.store.relations ∧
      s''.store.entities = s'.store.entities := by
  cases ht : s.settings.tracking with
  | false =>
    have hnone : s.attach e = (.ok [], s) := by
      unfold attach
      rw [if_pos (by simp [ht])]
    rw [hnone] at h
    cases h
    exact ⟨s, hnone, rfl, rfl⟩
  | true =>
    cases hgroups : s.groupsOf e with
    | error f =>
      unfold attach at h
      rw [if_neg (not_not_intro ht), hc.contentGroups, hgroups] at h
      cases h
    | ok groups =>
      obtain ⟨rs₁, s₁, hfirst, hs₁, hrun⟩ := assigns_attach hs hc ht hgroups
      rw [h] at hfirst
      cases hfirst
      have hgrows := hrun.grows hs
      have hgroups' := hrun.groupsOf_eq hs hs₁ hgroups fun p hp => (mem_mediaPairs hp).2.2
      obtain ⟨rs₂, s₂, hsecond, -, hrun'⟩ :=
        assigns_attach hs₁ (hgrows.settled hc) (hgrows.settings ▸ ht) hgroups'
      rw [hgrows.mediaPairs_eq] at hrun'
      obtain ⟨rfl, ha⟩ := hrun'.eq_nil (hrun.not_takes hs hm)
      exact ⟨s₂, hsecond, ha.store.relations, ha.store.entities⟩

theorem settled_gallery (groupLimit : Nat) : (Gallery.site groupLimit).Settled :=
  ⟨rfl, rfl, nofun, nofun⟩

theorem media_article (hc : s.Settled)
    (hload : s.store.entities.load ⟨EntityTypeId.media, .int 1⟩ = some Gallery.picture) :
    s.media Gallery.article = ([Gallery.picture], s) := by
  have hparts : Media.paragraphs s.store.entities Gallery.article = [] := by
    unfold Media.paragraphs Media.walk
    rfl
  have hreferred : Media.referred s.store.entities Gallery.article = [Gallery.picture] := by
    change [EntityKey.mk EntityTypeId.media (.int 1)].filterMap s.store.entities.load = _
    rw [List.filterMap_cons_some hload]
    rfl
  refine Prod.ext ?_ (hc.media Gallery.article)
  unfold Site.media
  rw [hc.finders]
  change Media.referred s.store.entities Gallery.article ++
    ((Media.paragraphs s.store.entities Gallery.article).flatMap _ ++ []) = _
  rw [hparts, hreferred]
  rfl

/-- The image follows the article into the first club, and only once. -/
theorem attach_attach_gallery : ∃ r s' s'',
    (Gallery.site 1).attach Gallery.article = (.ok [r], s') ∧ r.group = 1 ∧
      s'.attach Gallery.article = (.ok [], s'') ∧
      s''.store.relations = s'.store.relations ∧ s''.store.entities = s'.store.entities := by
  have hm : (Gallery.site 1).store.registry.installed.MediaOnce := by
    have hall : ∀ i ∈ (Gallery.site 1).store.registry.installed.installations,
        i.plugin = Gallery.articles ∨ i.entityLimit = 1 := by decide +kernel
    intro i hi b hb
    refine (hall i hi.mem_installations).resolve_left fun h => ?_
    exact Gallery.media_ne_articles b (hb.symm.trans h)
  have hattach : (Gallery.site 1).attach Gallery.article =
      (Gallery.site 1).assign .tracked [Gallery.picture] [Gallery.club 1] := by
    have hgroups : (Gallery.site 1).groupsOf Gallery.article = .ok [Gallery.club 1] := rfl
    unfold attach
    rw [if_neg (by decide), (settled_gallery 1).contentGroups, hgroups]
    dsimp only
    rw [media_article (settled_gallery 1) (by decide +kernel)]
  obtain ⟨rs, s', h, -⟩ := assigns_assign (Gallery.reachable_store 1) (settled_gallery 1).attach
    .tracked [Gallery.picture] [Gallery.club 1]
  have hgroups : ((Gallery.site 1).assign .tracked [Gallery.picture]
      [Gallery.club 1]).1.toOption.map (List.map Relation.group) = some [1] := by decide +kernel
  rw [h] at hgroups
  obtain ⟨r, hr, hgroup⟩ := List.map_eq_singleton_iff.mp (Option.some.inj hgroups)
  subst hr
  have hfirst := hattach.trans h
  obtain ⟨s'', hsecond, hsame⟩ :=
    attach_attach (Gallery.reachable_store 1) (settled_gallery 1) hm hfirst
  exact ⟨r, s', s'', hfirst, hgroup, hsecond, hsame⟩

end Site

end Grouping
