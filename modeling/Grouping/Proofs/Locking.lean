import Grouping.Proofs.Request
import Mathlib.Data.List.Induction

/-! # Locked configurations

A configuration is locked by the enabler through which it is written. It is stored as it then is, and
later belongs to whatever enabler has the id of its plugin. So the values that an enabler depends on
stay locked until a plugin with another configuration gets that enabler, or until a map that is out of
date hands the configuration to another enabler.
-/

namespace Grouping

namespace Enabler

variable {e : Enabler} {c : Configuration}

/-- The enabler depends on an entity limit of one. -/
def pins : Enabler → Bool
  | membership | media _ _ => true
  | node _ _ | entity _ => false

theorem lock_eq_self_iff : e.lock c = c ↔ (e.pins = true → c.entityLimit = 1) := by
  obtain ⟨groupLimit, entityLimit, tracking, wizard, infoText⟩ := c
  cases e with
  | membership => simp [lock, pins, eq_comm]
  | media bundle label => simp [lock, pins, eq_comm]
  | node bundle label => simp [lock, pins]
  | entity d => simp [lock, pins]

theorem entityLimit_lock (e : Enabler) (c : Configuration) :
    (e.lock c).entityLimit = if e.pins then 1 else c.entityLimit := by
  cases e <;> rfl

/-- The ids of the enablers that pin begin alike. -/
theorem take_id (h : e.pins = true) : e.id.toList.take 7 = "group_m".toList := by
  cases e with
  | membership => simp [id, definition, PluginId.membership]
  | media bundle label =>
    simp [id, definition, PluginId.media, EnablerDefinition.derivedId, PluginId.mediaBase]
  | node bundle label => cases h
  | entity d => cases h

/-- The enabler pins if its id is that of one that does. -/
def Genuine (e : Enabler) : Prop := ∀ d : Enabler, d.pins = true → d.id = e.id → e.pins = true

theorem id_ne_of_take_ne {d : Enabler} (hd : d.id.toList.take 7 ≠ "group_m".toList)
    (h : e.pins = true) : d.id ≠ e.id :=
  fun hid => hd (hid ▸ take_id h)

theorem take_id_subgroup_ne (groupType label : String) :
    (subgroup groupType label).id.toList.take 7 ≠ "group_m".toList := by
  simp [subgroup, id, definition, EnablerDefinition.derivedId, PluginId.subgroupBase]

end Enabler

theorem Derivation.genuine (d : Derivation) (bundle label : String) :
    (d.enabler bundle label).Genuine := by
  intro e he hid
  cases d with
  | media => rfl
  | node =>
    refine absurd hid.symm (Enabler.id_ne_of_take_ne ?_ he)
    simp [enabler, Enabler.id, Enabler.definition, EnablerDefinition.derivedId, PluginId.nodeBase]
  | subgroup =>
    exact absurd hid.symm (Enabler.id_ne_of_take_ne (Enabler.take_id_subgroup_ne bundle label) he)


namespace Catalog

variable {c : Catalog} {plugin : String} {e : Enabler}

theorem get?_resolve (c : Catalog) (plugin : String) :
    c.resolve.get? plugin = (c.all.filter fun e => e.id = plugin).getLast? := by
  rw [resolve, OrderedMap.get?_ofList, List.filter_map, List.getLast?_map, Option.map_map]
  exact Option.map_id_apply

/-- A new bundle of groups brings a plugin for subgroups and nothing else. -/
theorem filter_all_addBundle (c : Catalog) (h : e.pins = true) (bundle label : String) :
    ((c.addBundle EntityTypeId.group bundle label).all.filter fun d => d.id = e.id) =
      c.all.filter fun d => d.id = e.id := by
  have hsubgroup : ∀ l : List (String × String),
      ((l.map fun b => Enabler.subgroup b.1 b.2).filter fun d => d.id = e.id) = [] := by
    intro l
    refine List.filter_eq_nil_iff.mpr fun d hd => ?_
    obtain ⟨b, -, rfl⟩ := List.mem_map.mp hd
    simpa using Enabler.id_ne_of_take_ne (Enabler.take_id_subgroup_ne b.1 b.2) h
  change (c.enablers ++ c.derivations.flatMap fun d =>
    d.enablers (c.bundles.add EntityTypeId.group bundle label)).filter _ = _
  rw [all, List.filter_append, List.filter_append, List.filter_flatMap, List.filter_flatMap]
  congr 1
  refine List.flatMap_congr fun d _ => ?_
  cases d with
  | media => rw [Derivation.enablers, Derivation.enablers, Bundles.of_add, if_neg (by decide)]
  | node => rw [Derivation.enablers, Derivation.enablers, Bundles.of_add, if_neg (by decide)]
  | subgroup => exact (hsubgroup _).trans (hsubgroup _).symm

theorem Fresh.get?_definitions_addBundle (hc : c.Fresh) (h : e.pins = true) (bundle label : String)
    (he : (c.addBundle EntityTypeId.group bundle label).definitions.get? plugin = some e) :
    c.definitions.get? plugin = some e := by
  have hfresh : (c.addBundle EntityTypeId.group bundle label).Fresh := fresh_clear _
  obtain ⟨rfl, -⟩ := hfresh.all_definitions plugin e he
  rw [hfresh.definitions_eq, get?_resolve, c.filter_all_addBundle h] at he
  rwa [hc.definitions_eq, get?_resolve]

end Catalog

namespace Registry

variable {r r' : Registry} {g plugin : String} {c : Configuration} {e : Enabler} {q : Request}
  {qs : List Request}

/-- Every installation that an up-to-date map lists is locked by its own enabler. -/
def Locked (r : Registry) : Prop := ∀ g plugin i, (r.clear.installedOn g).get? plugin = some i →
  i.enabler.lock i.configuration = i.configuration

/-- The stored configurations have the values on which the enablers of their plugins depend. -/
def Pinned (r : Registry) : Prop := ∀ g, (r.configuredOn g).All fun plugin c =>
  ∀ e, r.catalog.definitions.get? plugin = some e → e.pins = true → c.entityLimit = 1

theorem locked_iff_pinned (h : r.Reachable) : r.Locked ↔ r.Pinned := by
  constructor
  · intro hlocked g plugin c hc e he
    have hi : (r.clear.installedOn g).get? plugin = some ⟨g, e, c⟩ := by
      refine (get?_resolve_on_eq_some_iff (r := r.clear) h.sound.catalog).mpr
        ⟨h.within.configured g plugin c hc, e, he, .inr (OrderedMap.mem_keys_iff.mpr ⟨c, hc⟩), ?_⟩
      rw [configuredOn_clear, hc, Option.getD_some]
    exact Enabler.lock_eq_self_iff.mp (hlocked g plugin _ hi)
  · intro hpinned g plugin i hi
    obtain ⟨-, e, he, -, rfl⟩ := (get?_resolve_on_eq_some_iff (r := r.clear) h.sound.catalog).mp hi
    rw [configuredOn_clear]
    cases hc : (r.configuredOn g).get? plugin with
    | none => exact e.lock_defaults
    | some c => exact Enabler.lock_eq_self_iff.mpr (hpinned g plugin c hc e he)

@[simp]
theorem pinned_warm_iff : r.warm.Pinned ↔ r.Pinned := by
  simp [Pinned]

theorem pinned_configure_iff (h : r.Pinned) : (r.configure g plugin c).Pinned ↔
    ∀ e, r.catalog.definitions.get? plugin = some e → e.pins = true → c.entityLimit = 1 := by
  constructor
  · intro hpinned
    refine hpinned g plugin c ?_
    rw [configuredOn_configure, if_pos rfl, OrderedMap.get?_insert, if_pos rfl]
  · intro hlimit
    exact all_configuredOn_configure h hlimit

theorem Pinned.unconfigure (h : r.Pinned) (g plugin : String) : (r.unconfigure g plugin).Pinned := by
  rw [Pinned, catalog_unconfigure]
  exact all_configuredOn_unconfigure h g plugin

theorem Pinned.registerGroupType (h : r.Pinned) (hc : r.catalog.Fresh) (t : GroupType) :
    (r.registerGroupType t).Pinned := by
  intro g plugin c hget e he hpins
  rw [configuredOn_registerGroupType] at hget
  exact h g plugin c hget e (hc.get?_definitions_addBundle hpins t.id t.label he) hpins

/-- An enabler that pins gets a configuration with another limit: either it takes the place of none, or
of one that does not pin, or the configuration comes through a map that still lists another one. -/
def Unlocks (r : Registry) : Request → Prop
  | .change q => ∃ g plugin c e, (r.configuredOn g).get? plugin = some c ∧ c.entityLimit ≠ 1 ∧
      (∀ d, r.catalog.definitions.get? plugin = some d → d.pins = false) ∧
      (r.catalog.change q).2.definitions.get? plugin = some e ∧ e.pins = true
  | .updateConfiguration g plugin c => c.entityLimit ≠ 1 ∧
      (∃ i, (r.installedOn g).get? plugin = some i ∧ i.enabler.pins = false) ∧
      ∃ e, r.catalog.definitions.get? plugin = some e ∧ e.pins = true
  | _ => False

theorem pinned_change_iff (h : r.Pinned) (q : CatalogChange) :
    (r.respond (.change q)).2.Pinned ↔ ¬ r.Unlocks (.change q) := by
  constructor
  · rintro hpinned ⟨g, plugin, c, e, hc, hlimit, -, he, hpins⟩
    exact hlimit (hpinned g plugin c hc e he hpins)
  · intro hnot g plugin c hc e he hpins
    by_contra hlimit
    refine hnot ⟨g, plugin, c, e, hc, hlimit, ?_, he, hpins⟩
    intro d hd
    rw [Bool.eq_false_iff]
    intro hdpins
    exact hlimit (h g plugin c hc d hd hdpins)

theorem pinned_updateConfiguration_iff (h : r.Pinned) :
    (r.updateConfiguration g plugin c).2.Pinned ↔ ¬ r.Unlocks (.updateConfiguration g plugin c) := by
  rcases r.updateConfiguration_eq g plugin c with ⟨hnone, hu⟩ | ⟨i, hi, hu⟩
  · rw [hu]
    refine iff_of_true (pinned_warm_iff.mpr h) ?_
    rintro ⟨-, ⟨i, hi, -⟩, -⟩
    rw [hnone] at hi
    cases hi
  · have hstep : (r.updateConfiguration g plugin c).2.Pinned ↔
        (r.warm.configure g plugin (i.enabler.lock c)).Pinned := by
      rw [hu]
      exact pinned_warm_iff
    rw [hstep, pinned_configure_iff (pinned_warm_iff.mpr h), definitions_warm]
    simp only [Enabler.entityLimit_lock]
    constructor
    · rintro hlimit ⟨hc, ⟨j, hj, hpins⟩, e, he, hepins⟩
      obtain rfl := Option.some.inj (hi.symm.trans hj)
      have hlimit := hlimit e he hepins
      rw [hpins] at hlimit
      exact hc hlimit
    · intro hnot e he hepins
      split
      · rfl
      · next hpins =>
        by_contra hc
        exact hnot ⟨hc, ⟨i, hi, Bool.eq_false_iff.mpr hpins⟩, e, he, hepins⟩

theorem Pinned.install (h : r.Pinned) (g plugin : String) (c : Option Configuration) :
    (r.install g plugin c).2.Pinned := by
  have hcatalog : r.warmCatalog.Pinned := h
  rcases r.install_cases g plugin c with hi | hi | hi | ⟨e, c', he, hi⟩
  · rwa [hi]
  · rwa [hi]
  · rw [hi, pinned_warm_iff]
    exact hcatalog
  · rw [hi, pinned_warm_iff]
    refine (pinned_configure_iff (pinned_warm_iff.mpr hcatalog)).mpr fun d hd hpins => ?_
    have hdefinition : r.catalog.definitions.get? plugin = some d := by
      rw [definitions_warm] at hd
      exact hd
    obtain rfl := Option.some.inj (he.symm.trans hdefinition)
    rw [Enabler.entityLimit_lock, if_pos hpins]

theorem pinned_respond_iff (h : r.Reachable) (hp : r.Pinned) (q : Request) :
    (r.respond q).2.Pinned ↔ ¬ r.Unlocks q := by
  cases q with
  | change q => exact pinned_change_iff hp q
  | definition q => exact iff_of_true hp id
  | registerGroupType t => exact iff_of_true (hp.registerGroupType h.sound.catalog t) id
  | install g plugin c => exact iff_of_true (hp.install g plugin c) id
  | uninstall g plugin =>
    refine iff_of_true ?_ id
    change (r.uninstall g plugin).2.Pinned
    rcases r.uninstall_cases g plugin with hu | hu
    · rw [hu, pinned_warm_iff]
      exact hp
    · rw [hu]
      exact (pinned_warm_iff.mpr hp).unconfigure g plugin
  | updateConfiguration g plugin c => exact pinned_updateConfiguration_iff hp
  | installation q => exact iff_of_true (pinned_warm_iff.mpr hp) id
  | clear => exact iff_of_true hp id

theorem after_append (r : Registry) (l : List Request) (q : Request) :
    r.after (l ++ [q]) = ((r.after l).respond q).2 := by
  simp [after]

/-- All is locked in each state of a run exactly if no request of the run unlocks anything. -/
theorem locked_after_iff (h : r.Reachable) (hl : r.Locked) :
    (∀ l, l <+: qs → (r.after l).Locked) ↔ ∀ l q, l ++ [q] <+: qs → ¬ (r.after l).Unlocks q := by
  have hstep : ∀ l q, (r.after l).Locked →
      ((r.after (l ++ [q])).Locked ↔ ¬ (r.after l).Unlocks q) := by
    intro l q hlocked
    have hreachable := h.after l
    rw [after_append, locked_iff_pinned (hreachable.respond q)]
    exact pinned_respond_iff hreachable ((locked_iff_pinned hreachable).mp hlocked) q
  constructor
  · intro hall l q hlq
    exact (hstep l q (hall l ((List.prefix_append l [q]).trans hlq))).mp (hall _ hlq)
  · intro hnone l hprefix
    induction l using List.reverseRecOn with
    | nil => exact hl
    | append_singleton l q ih =>
      exact (hstep l q (ih ((List.prefix_append l [q]).trans hprefix))).mpr (hnone l q hprefix)

/-- A run that starts with the enablers of the library keeps all locked exactly if no request of it
unlocks anything; and to be locked means an entity limit of one wherever the enabler pins. -/
theorem locked_throughout_iff (bundles : Bundles) (qs : List Request) :
    ((∀ l, l <+: qs → ((ofCatalog (.standard bundles)).after l).Locked) ↔
      ∀ l q, l ++ [q] <+: qs → ¬ ((ofCatalog (.standard bundles)).after l).Unlocks q) ∧
    ∀ r : Registry, r.Locked ↔ ∀ g plugin i, (r.clear.installedOn g).get? plugin = some i →
      i.enabler.pins = true → i.entityLimit = 1 := by
  constructor
  · exact locked_after_iff (reachable_standard bundles) fun _ _ _ hi => nomatch hi
  · intro r
    simp only [Locked, Enabler.lock_eq_self_iff]
    rfl

/-- A plugin is installed with a limit of five, and then its id goes to the media of a new bundle. -/
def taken : Registry :=
  (ofCatalog (.standard .empty)).after
    [.registerGroupType { id := "club", label := "Club" },
      .change (.register (.entity
        { id := PluginId.media "image", label := "Image", entityType := EntityTypeId.media })),
      .install "club" (PluginId.media "image") (some { entityLimit := 5 }),
      .change (.addBundle EntityTypeId.media "image" "Image")]

theorem not_locked_taken :
    (taken.clear.installedOn "club").get? (PluginId.media "image") =
        some ⟨"club", .media "image" "Image", { entityLimit := 5 }⟩ ∧
      ¬ taken.Locked := by
  have hi : (taken.clear.installedOn "club").get? (PluginId.media "image") =
      some ⟨"club", .media "image" "Image", { entityLimit := 5 }⟩ := by decide +kernel
  refine ⟨hi, fun hlocked => ?_⟩
  have hlock := hlocked "club" (PluginId.media "image") _ hi
  revert hlock
  decide

/-! ## Genuine enablers -/

/-- No enabler has taken the id of one that pins, and what is configured under such an id is locked. -/
structure Genuine (r : Registry) : Prop where
  enablers : ∀ e ∈ r.catalog.enablers, e.Genuine
  cached : ∀ m, r.cached = some m → ∀ g, (m.on g).All fun _ i => i.enabler.Genuine
  configured : ∀ g, (r.configuredOn g).All fun plugin c =>
    ∀ d : Enabler, d.pins = true → d.id = plugin → c.entityLimit = 1

namespace Genuine

theorem definition (h : r.Genuine) (hs : r.Sound)
    (he : r.catalog.definitions.get? plugin = some e) : e.Genuine := by
  obtain ⟨-, hall⟩ := hs.catalog.all_definitions plugin e he
  rcases List.mem_append.mp hall with hall | hall
  · exact h.enablers e hall
  · obtain ⟨d, -, hd⟩ := List.mem_flatMap.mp hall
    obtain ⟨b, -, rfl⟩ := List.mem_map.mp hd
    exact d.genuine b.1 b.2

theorem resolve (h : r.Genuine) (hs : r.Sound) (g : String) :
    (r.resolve.on g).All fun _ i => i.enabler.Genuine := by
  intro plugin i hi
  obtain ⟨-, e, he, -, rfl⟩ := (get?_resolve_on_eq_some_iff hs.catalog).mp hi
  exact h.definition hs he

theorem installed (h : r.Genuine) (hs : r.Sound) (g : String) :
    (r.installedOn g).All fun _ i => i.enabler.Genuine := by
  unfold installedOn Registry.installed
  cases hc : r.cached with
  | none => exact h.resolve hs g
  | some m => exact h.cached m hc g

theorem clear (h : r.Genuine) : r.clear.Genuine where
  enablers := h.enablers
  cached _ hm := absurd hm nofun
  configured := h.configured

theorem registerGroupType (h : r.Genuine) (t : GroupType) : (r.registerGroupType t).Genuine where
  enablers := h.enablers
  cached _ hm := absurd hm nofun
  configured := by
    simp only [configuredOn_registerGroupType]
    exact h.configured

theorem warm (h : r.Genuine) (hs : r.Sound) : r.warm.Genuine := by
  unfold Registry.warm
  split
  · exact h
  · refine ⟨h.enablers, ?_, h.configured⟩
    rintro m ⟨⟩
    exact h.resolve hs

theorem configure (h : r.Genuine) (he : e.Genuine) (g : String) (c : Configuration) :
    (r.configure g e.id (e.lock c)).Genuine := by
  refine ⟨h.enablers, h.cached, all_configuredOn_configure h.configured ?_⟩
  intro d hd hid
  rw [Enabler.entityLimit_lock, if_pos (he d hd hid)]

theorem unconfigure (h : r.Genuine) (g plugin : String) : (r.unconfigure g plugin).Genuine := by
  refine ⟨?_, ?_, all_configuredOn_unconfigure h.configured g plugin⟩
  · rw [catalog_unconfigure]
    exact h.enablers
  · rw [cached_unconfigure]
    exact h.cached

theorem change (h : r.Genuine) {q : CatalogChange} (hq : ∀ e, q = .register e → e.Genuine) :
    (r.respond (.change q)).2.Genuine := by
  refine ⟨?_, h.cached, h.configured⟩
  cases q with
  | register e =>
    intro d hd
    rcases List.mem_append.mp hd with hd | hd
    · exact h.enablers d hd
    · obtain rfl := List.mem_singleton.mp hd
      exact hq d rfl
  | registerDerivation d => exact h.enablers
  | addBundle type bundle label => exact h.enablers
  | removeBundle type bundle =>
    change ∀ e ∈ (r.catalog.removeBundle type bundle).enablers, e.Genuine
    unfold Catalog.removeBundle
    split
    · exact h.enablers
    · exact h.enablers

theorem pinned (h : r.Genuine) (hs : r.Sound) : r.Pinned := by
  intro g plugin c hc e he hpins
  exact h.configured g plugin c hc e hpins (hs.catalog.id_eq plugin e he)

end Genuine

theorem Move.genuine (h : Move r r') (hr : r.Genuine ∧ r.Sound) : r'.Genuine ∧ r'.Sound := by
  obtain ⟨hg, hs⟩ := hr
  refine ⟨?_, h.sound hs⟩
  cases h with
  | registerGroupType t => exact hg.registerGroupType t
  | install c _ he =>
    obtain ⟨rfl, -⟩ := hs.catalog.all_definitions _ _ he
    exact hg.configure (hg.definition hs he) _ c
  | update c hi =>
    obtain ⟨-, -, rfl⟩ := hs.installed.lists hi
    exact hg.configure (hg.installed hs _ _ _ hi) _ c
  | unconfigure g plugin => exact hg.unconfigure g plugin
  | clear => exact hg.clear
  | warm => exact hg.warm hs
  | warmCatalog => exact ⟨hg.enablers, hg.cached, hg.configured⟩

theorem genuine_ofCatalog {c : Catalog} (h : ∀ e ∈ c.enablers, e.Genuine) : (ofCatalog c).Genuine where
  enablers := h
  cached _ hm := absurd hm nofun
  configured _ := OrderedMap.all_empty

theorem genuine_after (h : r.Genuine) (hs : r.Sound)
    (hqs : ∀ e, .change (.register e) ∈ qs → e.Genuine) : (r.after qs).Genuine := by
  induction qs generalizing r with
  | nil => exact h
  | cons q qs ih =>
    refine ih ?_ ((r.step_respond q).sound hs) fun e he => hqs e (List.mem_cons_of_mem q he)
    by_cases hq : ∃ c, q = .change c
    · obtain ⟨c, rfl⟩ := hq
      exact h.change fun e he => hqs e (he ▸ List.mem_cons_self)
    · have hmoves := r.moves_respond (not_exists.mp hq)
      exact (hmoves.preserves (fun _ _ hmove => hmove.genuine) ⟨h, hs⟩).1

/-- Where no other enabler is registered under the id of one that pins, all stays locked. -/
theorem locked_of_genuine {bundles : Bundles}
    (hqs : ∀ e, .change (.register e) ∈ qs → e.Genuine) :
    ((ofCatalog (.standard bundles)).after qs).Locked := by
  have hr := reachable_standard bundles
  have hmembership : ∀ e ∈ (Catalog.standard bundles).enablers, e.Genuine := by
    intro e he
    obtain rfl := List.mem_singleton.mp he
    exact fun _ _ _ => rfl
  have hgenuine := genuine_after (genuine_ofCatalog hmembership) hr.sound hqs
  exact (locked_iff_pinned (hr.after qs)).mpr (hgenuine.pinned (hr.after qs).sound)

end Registry

end Grouping
