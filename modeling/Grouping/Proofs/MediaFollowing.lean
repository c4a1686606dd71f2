import Grouping.Proofs.Reattachment

/-! # Media follows its content

An attachment leaves each media item of the content in each group of the content, where it may be, and
adds it only where it is missing. No other relation comes or goes.
-/

namespace Grouping

theorem PluginId.media_injective {b b' : String} (h : media b = media b') : b = b' := by
  have hlist := congrArg String.toList h
  unfold media EnablerDefinition.derivedId at hlist
  simp only [String.toList_append, List.append_cancel_left_eq] at hlist
  exact String.toList_inj.mp hlist

namespace InstalledMap

variable {m : InstalledMap} {i : Installation} {groupType plugin : String}

/-- The plugins for media of a bundle are the library's own, each with room for one relation to an item
in a group, and for any number of groups. -/
def MediaFree (m : InstalledMap) : Prop :=
  ∀ i, m.Lists i → ∀ b, i.plugin = PluginId.media b →
    (∃ b' label, i.enabler = .media b' label) ∧ i.entityLimit = 1 ∧ i.groupLimit = 0

theorem MediaFree.accepts_iff (h : m.MediaFree) (hi : m.Lists i) {item : Entity}
    (hp : i.plugin = PluginId.media item.bundle) :
    i.enabler.accepts item = true ↔ item.type = EntityTypeId.media := by
  obtain ⟨⟨b, label, henabler⟩, -⟩ := h i hi _ hp
  have hb : PluginId.media b = PluginId.media item.bundle := by
    rw [← hp, Installation.plugin, henabler]
    rfl
  obtain rfl := PluginId.media_injective hb
  rw [Enabler.accepts_iff, henabler]
  change EntityTypeId.media = item.type ∧ ¬ (some item.bundle).any _ = true ↔ _
  simp [eq_comm]

end InstalledMap

namespace Site

variable {s s' s₁ : Site} {policy : AssignPolicy} {e item group : Entity} {g : Int64}
  {plugin : String} {k : EntityKey} {l : Link} {r : Relation} {rs : List Relation}
  {ps : List (Entity × Entity)}

/-! ## Where items are wanted -/

/-- The group would take the item by a relation to the key `k` in the group `g`, given room. -/
structure Wants (s : Site) (policy : AssignPolicy) (item group : Entity) (g : Int64)
    (k : EntityKey) : Prop where
  allowed : (s.asked policy item group).1 = true
  groupKey : group.key? = some ⟨EntityTypeId.group, .int g⟩
  key : item.key? = some k
  offered : ∃ i, s.Offers policy (PluginId.media item.bundle) group i ∧
    i.enabler.accepts item = true

theorem Takes.wants (h : s.Takes policy item group l) :
    s.Wants policy item group l.group l.key ∧ l.plugin = PluginId.media item.bundle := by
  obtain ⟨hallowed, ⟨i, hj, htracking, -⟩, -⟩ := h
  exact ⟨⟨hallowed, hj.groupKey, hj.key, i, ⟨hj.installed, htracking⟩, hj.accepts⟩, hj.plugin_eq⟩

theorem Takes.timesIn_eq_zero (h : s.Takes policy item group l) (hs : s.store.Reachable)
    (hm : s.store.registry.installed.MediaFree) :
    s.store.relations.timesIn l.group l.plugin l.key = 0 := by
  obtain ⟨i, hj, -, hadmits⟩ := h.admits
  obtain ⟨hlists, -, hplugin⟩ := hs.sound.registry.installed.lists hj.installed
  obtain ⟨-, hlimit, -⟩ := hm i hlists _ hplugin
  have hcount := hadmits.entity (by omega)
  omega

/-- Where an item is wanted and missing, there is room for it. -/
theorem Wants.exists_takes (h : s.Wants policy item group g k) (hs : s.store.Reachable)
    (hd : s.store.registry.installed.Distinct) (hm : s.store.registry.installed.MediaFree)
    (hmissing : s.store.relations.timesIn g (PluginId.media item.bundle) k = 0) :
    ∃ l, s.Takes policy item group l := by
  obtain ⟨hallowed, hgroupKey, hkey, i, ⟨hinstalled, htracking⟩, haccepts⟩ := h
  have hindexed := hs.sound.registry.installed
  obtain ⟨hlists, -, hplugin⟩ := hindexed.lists hinstalled
  obtain ⟨-, hentity, hgroups⟩ := hm i hlists _ hplugin
  have hadmits : i.Admits s.store.relations ⟨g, i.contentType, PluginId.media item.bundle, k⟩ := by
    constructor
    · intro hpos
      omega
    · intro hpos
      change s.store.relations.timesIn g (PluginId.media item.bundle) k < i.entityLimit
      omega
  refine ⟨_, hallowed, ⟨i, ?_, htracking, hadmits⟩, ?_⟩
  · exact ⟨hgroupKey, hkey, hinstalled, haccepts, rfl, rfl⟩
  · -- the validation looks at the same installation only because bundles are distinct
    intro j hfound _ _
    rw [Registry.ofContentType?, hindexed.get?_contentType hd hlists] at hfound
    cases hfound
    exact hadmits

theorem Grows.wants_iff (h : s.Grows rs s') :
    s'.Wants policy item group g k ↔ s.Wants policy item group g k := by
  have hasked : (s'.asked policy item group).1 = (s.asked policy item group).1 := by
    rw [fst_asked, fst_asked, h.hooks]
  have hon : s'.store.registry.installedOn group.bundle =
      s.store.registry.installedOn group.bundle := by
    unfold Registry.installedOn
    rw [h.installed]
  constructor
  · rintro ⟨hallowed, hgroupKey, hkey, i, ⟨hinstalled, htracking⟩, haccepts⟩
    rw [hasked] at hallowed
    rw [hon] at hinstalled
    exact ⟨hallowed, hgroupKey, hkey, i, ⟨hinstalled, htracking⟩, haccepts⟩
  · rintro ⟨hallowed, hgroupKey, hkey, i, ⟨hinstalled, htracking⟩, haccepts⟩
    rw [← hasked] at hallowed
    rw [← hon] at hinstalled
    exact ⟨hallowed, hgroupKey, hkey, i, ⟨hinstalled, htracking⟩, haccepts⟩

/-- One of the pairs wants a relation to `k` in the group `g` through the plugin. -/
def Wanted (s : Site) (policy : AssignPolicy) (ps : List (Entity × Entity)) (g : Int64)
    (plugin : String) (k : EntityKey) : Prop :=
  ∃ p ∈ ps, plugin = PluginId.media p.1.bundle ∧ s.Wants policy p.1 p.2 g k

theorem wanted_cons_iff : s.Wanted policy ((item, group) :: ps) g plugin k ↔
    (plugin = PluginId.media item.bundle ∧ s.Wants policy item group g k) ∨
      s.Wanted policy ps g plugin k :=
  List.exists_mem_cons_iff _ _ _

theorem Grows.wanted_iff (h : s.Grows rs s') :
    s'.Wanted policy ps g plugin k ↔ s.Wanted policy ps g plugin k := by
  unfold Wanted
  simp only [h.wants_iff]

/-- A run leaves an item at least once where it is wanted, and adds nothing where it is there already
or not wanted. -/
theorem Assigns.timesIn_eq (h : s.Assigns policy ps rs s') (hs : s.store.Reachable)
    (hd : s.store.registry.installed.Distinct) (hm : s.store.registry.installed.MediaFree) :
    (s.Wanted policy ps g plugin k → s'.store.relations.timesIn g plugin k =
      max 1 (s.store.relations.timesIn g plugin k)) ∧
    (¬ s.Wanted policy ps g plugin k → s'.store.relations.timesIn g plugin k =
      s.store.relations.timesIn g plugin k) := by
  induction h with
  | done ha =>
    rw [ha.store.relations]
    refine ⟨fun hw => ?_, fun _ => rfl⟩
    obtain ⟨p, hp, -⟩ := hw
    exact absurd hp List.not_mem_nil
  | @skip s s₁ s' item group ps rs hr ha hno _ ih =>
    obtain ⟨hyes, hnot⟩ := ih hr (ha.store.installed ▸ hd) (ha.store.installed ▸ hm)
    rw [ha.grows.wanted_iff, ha.store.relations] at hyes hnot
    rw [wanted_cons_iff]
    constructor
    · rintro (⟨rfl, hwants⟩ | hw)
      · -- it was passed over because it is there already
        have hthere : s.store.relations.timesIn g (PluginId.media item.bundle) k ≠ 0 := by
          intro hmissing
          obtain ⟨l, ht⟩ := hwants.exists_takes hs hd hm hmissing
          exact hno l ht
        by_cases hrest : s.Wanted policy ps g (PluginId.media item.bundle) k
        · exact hyes hrest
        · rw [hnot hrest]
          omega
      · exact hyes hw
    · exact fun hw => hnot fun hrest => hw (.inr hrest)
  | @add s s₁ s' item group r ps rs hr hg ht _ ih =>
    obtain ⟨hyes, hnot⟩ := ih hr (hg.store.installed ▸ hd) (hg.store.installed ▸ hm)
    obtain ⟨hwants, hplugin⟩ := ht.wants
    rw [(hg.grows hs).wanted_iff,
      RelationTable.timesIn_of_links_append (hg.store.links hs.sound)] at hyes hnot
    rw [wanted_cons_iff]
    by_cases hlink : r.link.group = g ∧ r.link.plugin = plugin ∧ r.link.key = k
    · -- it was missing and is there once now; the rest of the run adds no second one
      rw [if_pos hlink] at hyes hnot
      obtain ⟨rfl, rfl, rfl⟩ := hlink
      have hmissing := ht.timesIn_eq_zero hs hm
      refine ⟨fun _ => ?_, fun hw => absurd (.inl ⟨hplugin, hwants⟩) hw⟩
      by_cases hrest : s.Wanted policy ps r.link.group r.link.plugin r.link.key
      · rw [hyes hrest]
        omega
      · rw [hnot hrest]
        omega
    · rw [if_neg hlink, Nat.add_zero] at hyes hnot
      constructor
      · rintro (⟨hp, hwants'⟩ | hw)
        · -- the pair has one link only
          have hgroup := hwants.groupKey.symm.trans hwants'.groupKey
          have hkey := hwants.key.symm.trans hwants'.key
          cases hkey
          injection hgroup with hgroup
          injection hgroup with _ hgroup
          injection hgroup with hgroup
          exact absurd ⟨hgroup, hplugin.trans hp.symm, rfl⟩ hlink
        · exact hyes hw
      · exact fun hw => hnot fun hrest => hw (.inr hrest)

/-! ## Attachments -/

/-- The content is in the stored group `g` through whatever plugin, and refers to a media item with the
key `k` that may be attached to that group automatically. -/
structure Follows (s : Site) (e : Entity) (g : Int64) (plugin : String) (k : EntityKey) : Prop where
  held : ∃ r ∈ s.store.relations.relations, r.group = g ∧ e.key? = some r.key
  media : ∃ group item, s.store.entities.load ⟨EntityTypeId.group, .int g⟩ = some group ∧
    item ∈ (s.media e).1 ∧ item.type = EntityTypeId.media ∧ item.key? = some k ∧
    plugin = PluginId.media item.bundle ∧ s.settings.isExcluded item.bundle = false ∧
    ∃ i, (s.store.registry.installedOn group.bundle).get? plugin = some i ∧ i.tracking = true

theorem mem_groupsHolding_iff : group ∈ s.groupsHolding k ↔
    ∃ r ∈ s.store.relations.relations, r.key = k ∧
      s.store.entities.load ⟨EntityTypeId.group, .int r.group⟩ = some group := by
  unfold groupsHolding RelationTable.rowsTo
  simp only [List.mem_filterMap, mem_distinct, List.mem_map, List.mem_filter, decide_eq_true_eq]
  constructor
  · rintro ⟨g, ⟨r, ⟨hr, hk⟩, rfl⟩, hload⟩
    exact ⟨r, hr, hk, hload⟩
  · rintro ⟨r, hr, hk, hload⟩
    exact ⟨r.group, ⟨r, ⟨hr, hk⟩, rfl⟩, hload⟩

theorem isEligible_tracked_iff : s.isEligible .tracked item = true ↔
    PluginId.media item.bundle ∈ s.store.registry.installed.pluginIds ∧
      s.settings.isExcluded item.bundle = false ∧ item.key?.isSome = true := by
  unfold isEligible
  rw [Bool.and_eq_true, Bool.and_eq_true, List.contains_iff_mem, and_assoc]
  change _ ∧ (! s.settings.isExcluded item.bundle) = true ∧ _ ↔ _
  rw [Bool.not_eq_true']

theorem asked_of_nil (h : s.hooks.attach = []) (policy : AssignPolicy) (item group : Entity) :
    (s.asked policy item group).1 = true := by
  rw [fst_asked]
  split
  · unfold Hooks.shouldAttach
    rw [h]
    rfl
  · rfl

theorem wanted_iff_follows (hs : s.store.Reachable) (hattach : s.hooks.attach = [])
    (hm : s.store.registry.installed.MediaFree) {target : EntityKey}
    (hk : e.key? = some target) :
    s.Wanted .tracked (s.mediaPairs e (s.groupsHolding target)) g plugin k ↔
      s.Follows e g plugin k := by
  have hindexed := hs.sound.registry.installed
  constructor
  · rintro ⟨⟨item, group⟩, hp, rfl, -, hgroupKey, hkey, i, ⟨hinstalled, htracking⟩, haccepts⟩
    obtain ⟨hitem, heligible, hgroup⟩ := mem_mediaPairs hp
    obtain ⟨-, hincluded, -⟩ := isEligible_tracked_iff.mp heligible
    obtain ⟨r, hr, rfl, hload⟩ := mem_groupsHolding_iff.mp hgroup
    cases (hs.sound.entities _ _ hload).symm.trans hgroupKey
    obtain ⟨hlists, -, hplugin⟩ := hindexed.lists hinstalled
    have htype := (hm.accepts_iff hlists hplugin).mp haccepts
    exact ⟨⟨r, hr, rfl, hk⟩, group, item, hload, hitem, htype, hkey, rfl, hincluded, i,
      hinstalled, htracking rfl⟩
  · rintro ⟨⟨r, hr, rfl, hr'⟩, group, item, hload, hitem, htype, hkey, rfl, hincluded, i,
      hinstalled, htracking⟩
    obtain rfl : r.key = target := Option.some.inj (hr'.symm.trans hk)
    have hid := InstalledMap.mem_pluginIds_iff.mpr
      ⟨group.bundle, OrderedMap.mem_keys_iff.mpr ⟨i, hinstalled⟩⟩
    have heligible : s.isEligible .tracked item = true :=
      isEligible_tracked_iff.mpr ⟨hid, hincluded, Option.isSome_of_eq_some hkey⟩
    have hgroup := mem_groupsHolding_iff.mpr ⟨r, hr, rfl, hload⟩
    have hpair : (item, group) ∈ s.mediaPairs e (s.groupsHolding r.key) := by
      refine List.mem_flatMap.mpr ⟨item, hitem, ?_⟩
      unfold pairsOf
      rw [if_pos heligible]
      exact List.mem_map.mpr ⟨group, hgroup, rfl⟩
    obtain ⟨hlists, -, hplugin⟩ := hindexed.lists hinstalled
    have haccepts := (hm.accepts_iff hlists hplugin).mpr htype
    exact ⟨_, hpair, rfl, asked_of_nil hattach _ _ _, hs.sound.entities _ _ hload, hkey, i,
      ⟨hinstalled, fun _ => htracking⟩, haccepts⟩

/-- Content that is in groups takes its media along: an item that may follow is in the group once
afterwards if it was not there before, everything else is as it was. -/
theorem attach_follows (hs : s.store.Reachable) (hc : s.Settled) (hattach : s.hooks.attach = [])
    (ht : s.settings.tracking = true) (hd : s.store.registry.installed.Distinct)
    (hm : s.store.registry.installed.MediaFree) (hsaved : e.key?.isSome = true)
    (hfieldable : e.fieldable = true) (hgroup : e.isGroup = false) :
    ∃ rs s', s.attach e = (.ok rs, s') ∧
      (∀ id r, s.store.load id = some r → s'.store.load id = some r) ∧
      ∀ g plugin k,
        (s.Follows e g plugin k → s'.store.relations.timesIn g plugin k =
          max 1 (s.store.relations.timesIn g plugin k)) ∧
        (¬ s.Follows e g plugin k → s'.store.relations.timesIn g plugin k =
          s.store.relations.timesIn g plugin k) := by
  obtain ⟨target, hk⟩ := Option.isSome_iff_exists.mp hsaved
  have hgroups := groupsOf_content hs (by simp [hgroup]) hfieldable hk
  obtain ⟨rs, s', h, hs', hrun⟩ := assigns_attach hs hc ht hgroups
  refine ⟨rs, s', h, fun id r hr => ?_, fun g plugin k => ?_⟩
  · have hmem : r ∈ s'.store.relations.relations := by
      rw [(hrun.grows hs).relations]
      exact List.mem_append_left _ (RelationTable.mem_relations_iff.mpr ⟨id, hr⟩)
    obtain ⟨id', hr'⟩ := RelationTable.mem_relations_iff.mp hmem
    have hid := hs.sound.relations.id_eq hr
    rw [hs'.sound.relations.id_eq hr'] at hid
    cases hid
    exact hr'
  · rw [← wanted_iff_follows hs hattach hm hk]
    exact hrun.timesIn_eq hs hd hm

/-- The image follows the article into the first club, but not into the second one. -/
theorem attach_follows_gallery : ∃ rs s', (Gallery.site 0).attach Gallery.article = (.ok rs, s') ∧
    s'.store.load 1 = (Gallery.site 0).store.load 1 ∧
    s'.store.relations.timesIn 1 (PluginId.media "image") ⟨EntityTypeId.media, .int 1⟩ = 1 ∧
    s'.store.relations.timesIn 2 (PluginId.media "image") ⟨EntityTypeId.media, .int 1⟩ = 0 := by
  have hd : (Gallery.site 0).store.registry.installed.Distinct :=
    InstalledMap.distinct_of_nodup (by decide +kernel)
  have hm : (Gallery.site 0).store.registry.installed.MediaFree := by
    have hall : ∀ i ∈ (Gallery.site 0).store.registry.installed.installations,
        i.plugin = Gallery.articles ∨
          i.enabler = .media "image" "Image" ∧ i.entityLimit = 1 ∧ i.groupLimit = 0 := by
      decide +kernel
    intro i hi b hb
    obtain ⟨henabler, hlimits⟩ := (hall i hi.mem_installations).resolve_left fun h =>
      Gallery.media_ne_articles b (hb.symm.trans h)
    exact ⟨⟨_, _, henabler⟩, hlimits⟩
  have hfirst : (Gallery.site 0).Follows Gallery.article 1 (PluginId.media "image")
      ⟨EntityTypeId.media, .int 1⟩ := by
    refine ⟨by decide +kernel, Gallery.club 1, Gallery.picture, by decide +kernel, ?_, rfl, rfl,
      rfl, rfl, ⟨"club", .media "image" "Image", ⟨0, 1, true, false, ""⟩⟩, by decide +kernel, rfl⟩
    rw [media_article (settled_gallery 0) (by decide +kernel)]
    exact List.mem_singleton.mpr rfl
  have hsecond : ¬ (Gallery.site 0).Follows Gallery.article 2 (PluginId.media "image")
      ⟨EntityTypeId.media, .int 1⟩ := by
    rintro ⟨⟨r, hr, hgroup, -⟩, -⟩
    revert r
    decide +kernel
  obtain ⟨rs, s', h, hkept, hcounts⟩ := attach_follows (Gallery.reachable_store 0)
    (settled_gallery 0) rfl rfl hd hm (e := Gallery.article) rfl rfl rfl
  refine ⟨rs, s', h, ?_, ?_, ?_⟩
  · have hrow : ((Gallery.site 0).store.load 1).isSome = true := by decide +kernel
    obtain ⟨r, hr⟩ := Option.isSome_iff_exists.mp hrow
    rw [hr]
    exact hkept 1 r hr
  · rw [(hcounts 1 _ _).1 hfirst]
    decide +kernel
  · rw [(hcounts 2 _ _).2 hsecond]
    decide +kernel

end Site

end Grouping
