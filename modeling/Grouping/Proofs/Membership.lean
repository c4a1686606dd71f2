import Grouping.Proofs.Operation

/-! # The membership plugin of a new site

On a site that started with the enablers of the library, the plugin for members stays what it is there:
no derived enabler takes its id, and its configurations are locked to one membership for each user and
group. Neither settings nor other operations change that.
-/

namespace Grouping

theorem EnablerDefinition.derivedId_ne {id : String} (h : ':' ∉ id.toList) (base derivative : String) :
    derivedId base derivative ≠ id := by
  rintro rfl
  apply h
  simp [derivedId]

theorem Derivation.id_ne_membership (d : Derivation) (bundle label : String) :
    (d.enabler bundle label).id ≠ PluginId.membership := by
  have hcolon : ':' ∉ PluginId.membership.toList := by decide
  cases d with
  | media => exact EnablerDefinition.derivedId_ne hcolon PluginId.mediaBase bundle
  | node => exact EnablerDefinition.derivedId_ne hcolon PluginId.nodeBase bundle
  | subgroup => exact EnablerDefinition.derivedId_ne hcolon PluginId.subgroupBase bundle

theorem Catalog.eq_membership {c : Catalog} (h : c.enablers = [.membership]) {e : Enabler}
    (he : e ∈ c.all) (hid : e.id = PluginId.membership) : e = .membership := by
  rw [all, h, List.mem_append, List.mem_singleton] at he
  rcases he with rfl | he
  · rfl
  · obtain ⟨d, -, he⟩ := List.mem_flatMap.mp he
    obtain ⟨b, -, rfl⟩ := List.mem_map.mp he
    exact absurd hid (d.id_ne_membership b.1 b.2)

/-- The enabler for members, with a limit of one for each user and group. -/
def Installation.IsMembership (i : Installation) : Prop :=
  i.enabler = .membership ∧ i.entityLimit = 1

def InstalledMap.KeepsMembership (m : InstalledMap) : Prop :=
  ∀ g i, (m.on g).get? PluginId.membership = some i → i.IsMembership

namespace Registry

variable {r r' : Registry} {g plugin : String}

structure KeepsMembership (r : Registry) : Prop where
  enablers : r.catalog.enablers = [.membership]
  configured : ∀ g c, (r.configuredOn g).get? PluginId.membership = some c → c.entityLimit = 1
  cached : ∀ m, r.cached = some m → m.KeepsMembership

namespace KeepsMembership

theorem definition (h : r.KeepsMembership) (hr : r.Sound) {e : Enabler}
    (he : r.catalog.definitions.get? PluginId.membership = some e) : e = .membership := by
  obtain ⟨hid, hall⟩ := hr.catalog.all_definitions _ _ he
  exact Catalog.eq_membership h.enablers hall hid

theorem resolveOn (h : r.KeepsMembership) (hr : r.Sound) (g : String) :
    (r.resolveOn g).All fun p i => p = PluginId.membership → i.IsMembership := by
  refine InstalledPlugins.all_resolve ?_ ?_
  · intro p e he _ hid
    obtain ⟨-, hall⟩ := hr.catalog.all_definitions p e he
    obtain rfl := Catalog.eq_membership h.enablers hall hid
    refine ⟨rfl, ?_⟩
    cases hc : (r.configuredOn g).get? PluginId.membership with
    | none => simp [Installation.entityLimit, Enabler.id, Enabler.definition, hc, Enabler.defaults]
    | some c =>
      have hlimit := h.configured g c hc
      simp [Installation.entityLimit, Enabler.id, Enabler.definition, hc, hlimit]
  · rintro p c hc e he rfl
    exact ⟨h.definition hr he, h.configured g c hc⟩

theorem resolve (h : r.KeepsMembership) (hr : r.Sound) : r.resolve.KeepsMembership := by
  intro g i hi
  rw [r.resolve_on] at hi
  split at hi
  · exact h.resolveOn hr g _ i hi rfl
  · cases hi

theorem installed (h : r.KeepsMembership) (hr : r.Sound) : r.installed.KeepsMembership := by
  unfold Registry.installed
  cases hc : r.cached with
  | none => exact h.resolve hr
  | some m => exact h.cached m hc

theorem warmCatalog (h : r.KeepsMembership) : r.warmCatalog.KeepsMembership :=
  ⟨h.enablers, h.configured, h.cached⟩

theorem clear (h : r.KeepsMembership) : r.clear.KeepsMembership :=
  ⟨h.enablers, h.configured, nofun⟩

theorem warm (h : r.KeepsMembership) (hr : r.Sound) : r.warm.KeepsMembership := by
  unfold Registry.warm
  split
  · exact h
  · refine ⟨h.enablers, h.configured, ?_⟩
    rintro m ⟨⟩
    exact h.resolve hr

theorem all_configuredOn (h : r.KeepsMembership) (g : String) :
    (r.configuredOn g).All fun plugin c => plugin = PluginId.membership → c.entityLimit = 1 := by
  rintro plugin c hc rfl
  exact h.configured g c hc

theorem configure (h : r.KeepsMembership) (g plugin : String) {c : Configuration}
    (hc : plugin = PluginId.membership → c.entityLimit = 1) :
    (r.configure g plugin c).KeepsMembership :=
  ⟨h.enablers, fun g' c' hc' => all_configuredOn_configure h.all_configuredOn hc g' _ c' hc' rfl,
    h.cached⟩

theorem unconfigure (h : r.KeepsMembership) (g plugin : String) :
    (r.unconfigure g plugin).KeepsMembership := by
  refine ⟨?_, ?_, ?_⟩
  · rw [catalog_unconfigure]
    exact h.enablers
  · intro g' c' hc'
    exact all_configuredOn_unconfigure h.all_configuredOn g plugin g' _ c' hc' rfl
  · rw [cached_unconfigure]
    exact h.cached

theorem registerGroupType (h : r.KeepsMembership) (t : GroupType) :
    (r.registerGroupType t).KeepsMembership := by
  refine ⟨h.enablers, ?_, nofun⟩
  intro g c hc
  rw [configuredOn_registerGroupType] at hc
  exact h.configured g c hc

end KeepsMembership

theorem Move.keepsMembership (h : Move r r') (hr : r.KeepsMembership ∧ r.Sound) :
    r'.KeepsMembership ∧ r'.Sound := by
  obtain ⟨hk, hs⟩ := hr
  refine ⟨?_, h.sound hs⟩
  have hlock : ∀ c, (Enabler.membership.lock c).entityLimit = 1 := fun _ => rfl
  cases h with
  | registerGroupType t => exact hk.registerGroupType t
  | install c hg he =>
    refine hk.configure _ _ ?_
    rintro rfl
    rw [hk.definition hs he, hlock]
  | update c hi =>
    refine hk.configure _ _ ?_
    rintro rfl
    rw [(hk.installed hs _ _ hi).1, hlock]
  | unconfigure g plugin => exact hk.unconfigure g plugin
  | clear => exact hk.clear
  | warm => exact hk.warm hs
  | warmCatalog => exact hk.warmCatalog

theorem KeepsMembership.set (h : r.KeepsMembership) (hr : r.Sound) (c : Setting) :
    (r.set c).KeepsMembership := by
  have hmoves : ∀ {r' : Registry}, r.Moves r' → r'.KeepsMembership := fun hm =>
    (hm.preserves (fun _ _ hmove => hmove.keepsMembership) ⟨h, hr⟩).1
  cases c with
  | addBundle type bundle label => exact ⟨h.enablers, h.configured, h.cached⟩
  | removeBundle type bundle =>
    refine ⟨?_, h.configured, h.cached⟩
    change (r.catalog.removeBundle type bundle).enablers = _
    unfold Catalog.removeBundle
    split
    · exact h.enablers
    · exact h.enablers
  | registerGroupType t => exact h.registerGroupType t
  | install g plugin c => exact hmoves (r.moves_install g plugin c)
  | uninstall g plugin => exact hmoves (r.moves_uninstall g plugin)
  | updateConfiguration g plugin c => exact hmoves (r.moves_updateConfiguration g plugin c)
  | clear => exact h.clear

end Registry

namespace Store

variable {s s' : Store}

theorem keepsMembership_fresh (bundles : Bundles) (now : Instant) :
    (fresh bundles now).registry.KeepsMembership :=
  ⟨rfl, nofun, nofun⟩

theorem Works.keepsMembership (hw : s.Works s') (h : s.registry.KeepsMembership)
    (hs : s.registry.Sound) : s'.registry.KeepsMembership := by
  rcases hw.registry with hr | hr
  · rwa [hr]
  · rw [hr]
    exact h.warm hs

theorem keepsMembership_perform (h : s.registry.KeepsMembership) (hs : s.Reachable)
    (op : Operation) : (s.perform op).registry.KeepsMembership := by
  rcases s.perform_cases op with hw | ⟨s₁, c, hw, hop⟩
  · exact hw.keepsMembership h hs.sound.registry
  · rw [hop]
    exact (hw.keepsMembership h hs.sound.registry).set (hs.works hw).sound.registry c

end Store

end Grouping
