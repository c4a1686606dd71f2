import Grouping.Proofs.MediaRemoval
import Grouping.Proofs.Origin
import Grouping.Proofs.PluginOrder
import Grouping.Proofs.Uncached

/-! # What goes with a plugin

A plugin that is uninstalled takes its relations on the group type with it. They are looked for by their
relation bundle, which leads to no others where installations have distinct ones. The configuration goes
last, and nothing can stop it then: whether the plugin may go is clear before the first relation does.
-/

namespace Grouping

namespace InstalledPlugins

variable {groupType plugin : String} {definitions : DefinitionTable}
  {configured : OrderedMap String Configuration}

/-- Without its configuration a plugin that is not enforced is gone, the others keep their places. -/
theorem resolve_erase (hd : definitions.All fun p e => e.id = p) (hp : ¬ definitions.Enforces plugin) :
    resolve groupType definitions (configured.erase plugin) =
      OrderedMap.erase (resolve groupType definitions configured) plugin := by
  apply OrderedMap.ext_keys
  · have hforced : (definitions.keys.filter definitions.Enforces).filter (fun q => q ≠ plugin) =
        definitions.keys.filter definitions.Enforces := by
      refine List.filter_eq_self.mpr fun q hq => decide_eq_true ?_
      rintro rfl
      exact hp (of_decide_eq_true (List.mem_filter.mp hq).2)
    rw [OrderedMap.keys_erase, keys_resolve hd, keys_resolve hd, OrderedMap.keys_erase,
      List.filter_append, hforced, List.filter_comm]
  · intro q
    apply Option.ext
    intro i
    rw [OrderedMap.get?_erase, get?_resolve_eq_some_iff hd, OrderedMap.get?_erase]
    split
    · next hq =>
      subst hq
      refine iff_of_false ?_ (Option.some_ne_none i).symm
      rintro ⟨e, he, hforced | hkey, -⟩
      · exact hp ((DefinitionTable.enforces_iff he).mpr hforced)
      · exact (OrderedMap.mem_keys_erase.mp hkey).2 rfl
    · next hq =>
      have hmem : q ∈ (configured.erase plugin).keys ↔ q ∈ configured.keys :=
        OrderedMap.mem_keys_erase.trans (and_iff_left (Ne.symm hq))
      rw [get?_resolve_eq_some_iff hd, hmem]

end InstalledPlugins

namespace Registry

variable {r : Registry} {g p : String} {i : Installation}

theorem resolve_unconfigure_on (h : r.catalog.Fresh) (hp : ¬ r.catalog.definitions.Enforces p)
    (g' : String) :
    (r.unconfigure g p).resolve.on g' =
      if g = g' then OrderedMap.erase (r.resolve.on g') p else r.resolve.on g' := by
  rw [resolve_on, resolve_on, groupTypes_unconfigure, resolveOn, catalog_unconfigure,
    configuredOn_unconfigure]
  by_cases hg : g = g'
  · rw [if_pos hg, if_pos hg, InstalledPlugins.resolve_erase h.id_eq hp]
    split
    · rfl
    · rfl
  · rw [if_neg hg, if_neg hg]
    rfl

theorem installedOn_unconfigure (hs : r.Sound) (hcurrent : r.Current)
    (hi : (r.installedOn g).get? p = some i) (he : ¬ i.enabler.isEnforced = true) (g' : String) :
    (r.warm.unconfigure g p).clear.installedOn g' =
      if g = g' then OrderedMap.erase (r.installedOn g') p else r.installedOn g' := by
  have hon : ∀ j, r.installedOn j = r.resolve.on j := by
    intro j
    rw [installedOn, hcurrent.installed_eq hs, resolve_eq_uncached hs.catalog]
  have hp : ¬ r.warm.catalog.definitions.Enforces p := by
    rw [hon] at hi
    obtain ⟨-, e, hdefined, -, rfl⟩ := (get?_resolve_on_eq_some_iff hs.catalog).mp hi
    rwa [definitions_warm, DefinitionTable.enforces_iff hdefined]
  have hread : (r.warm.unconfigure g p).clear.installedOn g' =
      (r.warm.unconfigure g p).resolve.on g' := rfl
  rw [hread, resolve_unconfigure_on hs.warm.catalog hp, resolve_warm, hon]

/-- Why a plugin cannot be uninstalled, if it cannot. -/
def refusal? (r : Registry) (g p : String) : Option Failure :=
  match (r.installedOn g).get? p with
  | none => some (.pluginNotFound p)
  | some i => if i.enabler.isEnforced then some (enforcedFailure p) else none

end Registry

namespace Store

variable {s : Store} {g p : String} {x : Relation} {i : Installation}

theorem contentType_eq_iff (hs : s.Sound) (hd : s.registry.installed.Distinct)
    (hi : s.registry.installed.Lists i) (hx : Drafted x)
    (hhas : s.registry.has x.groupType x.plugin = true) :
    x.contentType = i.contentType ↔ x.groupType = i.groupType ∧ x.plugin = i.plugin := by
  rw [hx.contentType_eq]
  constructor
  · intro hct
    -- the plugin of the relation has an installation too, and there is one for each relation bundle
    obtain ⟨j, -, hlists, hgroupType, hplugin⟩ :=
      hs.registry.exists_installation ((OrderedMap.contains_iff_mem_keys _ _).mp hhas)
    rw [← hgroupType, ← hplugin] at hct ⊢
    obtain rfl := hd j i hlists hi hct
    exact ⟨rfl, rfl⟩
  · rintro ⟨hgroupType, hplugin⟩
    rw [hgroupType, hplugin]
    rfl

theorem drops_of_installed (hs : s.Reachable) (hd : s.registry.installed.Distinct)
    (hrelations : ∀ x ∈ s.relations.relations,
      Drafted x ∧ s.registry.has x.groupType x.plugin = true)
    (hi : (s.registry.installedOn g).get? p = some i) :
    s.Drops (fun x => x.groupType = g ∧ x.plugin = p) (s.warm.deleteByContentType i.contentType).1
      (s.warm.deleteByContentType i.contentType).2 := by
  obtain ⟨hlists, hgroupType, hplugin⟩ := hs.sound.registry.installed.lists hi
  have hdrops := (drops_deleteByContentType hs.warm i.contentType).of_agrees_left s.agrees_warm
  refine hdrops.congr fun x hx => ?_
  obtain ⟨hdrafted, hhas⟩ := hrelations x hx
  rw [contentType_eq_iff hs.sound hd hlists hdrafted hhas, hgroupType, hplugin]

/-- A plugin that cannot be uninstalled stays, and so does all else. Any other plugin goes with its
relations, and the plugins that stay are as they were. -/
theorem uninstallPlugin_cascades (hs : s.Reachable) (hd : s.registry.installed.Distinct)
    (hcurrent : s.registry.Current)
    (hrelations : ∀ x ∈ s.relations.relations,
      Drafted x ∧ s.registry.has x.groupType x.plugin = true) (g p : String) :
    (∀ f, s.registry.refusal? g p = some f →
      ∃ s', s.uninstallPlugin g p = (.error f, s') ∧ s.Agrees s') ∧
    (s.registry.refusal? g p = none → ∃ n s', s.uninstallPlugin g p = (.ok n, s') ∧
      s.Drops (fun x => x.groupType = g ∧ x.plugin = p) n s' ∧
      s'.registry.groupTypes = s.registry.groupTypes ∧ s'.registry.has g p = false ∧
      ∀ g', s'.registry.installedOn g' =
        if g = g' then OrderedMap.erase (s.registry.installedOn g') p
        else s.registry.installedOn g') := by
  unfold Registry.refusal?
  rcases s.uninstallPlugin_eq g p with ⟨hnone, hu⟩ | ⟨i, hi, hu⟩
  · rw [hnone]
    refine ⟨?_, nofun⟩
    rintro f ⟨⟩
    exact ⟨_, hu, s.agrees_warm⟩
  rw [hi]
  dsimp only
  by_cases he : i.enabler.isEnforced = true
  · rw [if_pos he] at hu ⊢
    refine ⟨?_, nofun⟩
    rintro f ⟨⟩
    exact ⟨_, hu, s.agrees_warm⟩
  · rw [if_neg he] at hu ⊢
    refine ⟨nofun, fun _ => ⟨_, _, hu, ?_⟩⟩
    have hdrops := drops_of_installed hs hd hrelations hi
    have hreachable := hs.perform (.uninstallPlugin g p)
    have hon := Registry.installedOn_unconfigure hs.sound.registry hcurrent hi he
    refine ⟨⟨?_, hdrops.entities, hdrops.count, hdrops.relations⟩, ?_, ?_, hon⟩
    · rwa [perform, hu] at hreachable
    · exact (Registry.groupTypes_unconfigure ..).trans s.registry.groupTypes_warm
    · change ((s.registry.warm.unconfigure g p).clear.installedOn g).contains p = false
      rw [hon, if_pos rfl, OrderedMap.contains_eq_isSome, OrderedMap.get?_erase, if_pos rfl]
      rfl

/-- A team is founded after the season, and Chess joins it too. -/
def leagues : List Operation :=
  season.dropLast ++
    [.setting (.registerGroupType { id := "team", label := "Team" }),
      .setting (.install "team" subclubs none),
      .createGroup (Entity.group default "team" "Kings") none,
      .addContent { Entity.group default "team" "Kings" with id := some (.int 3), saved := true } chess
        subclubs]

/-- When clubs may be in clubs no longer, Chess is still in the team. -/
theorem uninstallPlugin_cascades_leagues :
    let s := leagues.foldl perform (fresh .empty ⟨0, 0⟩)
    s.relations.relations.map (fun x => (x.group, x.plugin)) =
        [(1, PluginId.membership), (2, subclubs), (2, PluginId.membership), (3, subclubs)] ∧
      ∃ s', s.uninstallPlugin "club" subclubs = (.ok 1, s') ∧
        s'.relations.relations.map (fun x => (x.group, x.plugin)) =
          [(1, PluginId.membership), (2, PluginId.membership), (3, subclubs)] ∧
        s'.registry.has "club" subclubs = false ∧ s'.registry.has "team" subclubs = true := by
  intro s
  obtain ⟨hs, hdrafted⟩ := drafted_of_run (reachable_fresh .empty ⟨0, 0⟩) rfl leagues
  have hd : s.registry.installed.Distinct := InstalledMap.distinct_of_nodup (by decide +kernel)
  have hcurrent : s.registry.Current := by decide +kernel
  have hhas : ∀ x ∈ s.relations.relations, s.registry.has x.groupType x.plugin = true := by
    decide +kernel
  refine ⟨by decide +kernel, ?_⟩
  obtain ⟨-, hcascades⟩ := uninstallPlugin_cascades hs hd hcurrent
    (fun x hx => ⟨hdrafted x hx, hhas x hx⟩) "club" subclubs
  obtain ⟨n, s', hu, hdrops, -, hgone, hon⟩ := hcascades (by decide +kernel)
  obtain rfl : n = 1 := hdrops.count.trans (by decide +kernel)
  refine ⟨s', hu, ?_, hgone, ?_⟩
  · rw [hdrops.relations]
    decide +kernel
  · rw [Registry.has, hon]
    decide +kernel

end Store

end Grouping
