import Grouping.Proofs.Origin
import Grouping.Proofs.PluginIndex
import Grouping.Proofs.Upholding

/-! # Relations and their installations

A relation is stored through an installation. It outlives this installation only if the plugin is
uninstalled without its relations or its definition is taken away. In runs without that, the two ways
to a plugin's relations, through its relation bundles and through the plugin of each relation, meet.
-/

namespace Grouping

/-- The plugin of the relation is installed on its group type, and that backs its relation bundle. -/
def Registry.Serves (r : Registry) (x : Relation) : Prop :=
  x.plugin ∈ (r.installedOn x.groupType).keys ∧ x.contentType = contentTypeId x.groupType x.plugin

theorem Registry.Reachable.of_store {s : Store} (h : s.Reachable) : s.registry.Reachable := by
  induction h with
  | create bundles now => exact .create bundles
  | step _ hstep ih =>
    cases hstep with
    | registry hr => exact ih.step hr
    | _ => exact ih

namespace Store

variable {s s' : Store} {entity group : Entity} {plugin : String} {r x : Relation} {i : Installation}
  {ops : List Operation}

/-! ## New relations -/

theorem serves_of_joins (hs : s.Sound) (h : s.Joins entity group plugin i r.link)
    (hgroup : r.groupType = group.bundle) : s.registry.Serves r := by
  obtain ⟨-, hgroupType, rfl⟩ := hs.registry.installed.lists h.installed
  have hplugin : r.plugin = i.plugin := h.plugin_eq
  have hct : r.contentType = i.contentType := h.contentType
  constructor
  · rw [hgroup, hplugin]
    exact OrderedMap.mem_keys_iff.mpr ⟨i, h.installed⟩
  · rw [hct, Installation.contentType, hgroupType, hgroup, hplugin]

theorem Enters.serves (hs : s.Sound) (h : s.Enters x) : s.registry.Serves x := by
  obtain ⟨entity, group, i, hjoins, hgroup⟩ := h
  exact serves_of_joins hs hjoins hgroup

/-- Relations come into the store through installed plugins. -/
theorem serves_of_mem_perform (hs : s.Reachable) (op : Operation)
    (hx : x ∈ (s.perform op).relations.relations) :
    x ∈ s.relations.relations ∨ s.registry.Serves x :=
  (enters_of_mem_perform hs op hx).imp_right (Enters.serves hs.sound)

/-! ## Runs -/

/-- The plugins of all relations are installed, and whatever is installed is due. -/
structure Attended (s : Store) : Prop where
  backed : s.registry.Backed
  serves : ∀ x ∈ s.relations.relations, s.registry.Serves x

/-- The relation bundle of a relation leads to the installation of its plugin on its group type, and the
plugin leads to its relations in the order of their ids. -/
structure Live (s : Store) : Prop where
  installation : ∀ x ∈ s.relations.relations, ∃ i,
    s.registry.ofContentType? x.contentType = some i ∧
      s.registry.get x.groupType x.plugin = .ok i
  byPlugin : ∀ p, (s.byPlugin p).1 = s.relations.relations.filter fun x => x.plugin = p
  ordered : ∀ p, (s.byPlugin p).1.Pairwise Relation.Precedes

theorem Attended.exists_installation (h : s.Attended) (hs : s.Sound)
    (hx : x ∈ s.relations.relations) :
    ∃ i, (s.registry.installedOn x.groupType).get? x.plugin = some i ∧
      s.registry.installed.Lists i ∧ i.plugin = x.plugin ∧ i.contentType = x.contentType := by
  obtain ⟨hp, hct⟩ := h.serves x hx
  obtain ⟨i, hi, hlists, hgroupType, hplugin⟩ := hs.registry.exists_installation hp
  refine ⟨i, hi, hlists, hplugin, ?_⟩
  rw [hct, Installation.contentType, hgroupType, hplugin]

theorem Attended.byPlugin (h : s.Attended) (hs : s.Reachable) (hd : s.registry.installed.Distinct)
    (p : String) :
    (s.byPlugin p).1 = s.relations.relations.filter fun x => x.plugin = p := by
  have hselect : (s.byPlugin p).1 = s.relations.select
      { contentTypes := some (s.registry.contentTypesOf p) } := by
    unfold Store.byPlugin Registry.contentTypesOf
    dsimp only
    rw [s.agrees_warm.installed]
    rfl
  rw [hselect, hs.sound.relations.select_eq_scan, RelationTable.scan]
  refine List.filter_congr fun x hx => ?_
  obtain ⟨i, -, hlists, hplugin, hct⟩ := h.exists_installation hs.sound hx
  have hholds : RelationQuery.holds { contentTypes := some (s.registry.contentTypesOf p) } x = true ↔
      x.contentType ∈ s.registry.contentTypesOf p := by
    simp [RelationQuery.holds, RelationQuery.allows]
  have hregistry := Registry.Reachable.of_store hs
  rw [Bool.eq_iff_iff, hholds, decide_eq_true_eq, hregistry.mem_contentTypesOf_iff]
  constructor
  · -- distinct installations do not share the relation bundle
    rintro ⟨j, hj, rfl, hjct⟩
    rw [← hplugin, hd i j hlists hj (hct.trans hjct.symm)]
  · rintro rfl
    exact ⟨i, hlists, hplugin, hct⟩

theorem Attended.live (h : s.Attended) (hs : s.Reachable) (hd : s.registry.installed.Distinct) :
    s.Live where
  installation x hx := by
    obtain ⟨i, hi, hlists, -, hct⟩ := h.exists_installation hs.sound hx
    refine ⟨i, ?_, ?_⟩
    · rw [← hct]
      exact hs.sound.registry.installed.get?_contentType hd hlists
    · rw [Registry.get, hi]
  byPlugin := h.byPlugin hs hd
  ordered p := by
    rw [h.byPlugin hs hd]
    exact hs.sound.relations.pairwise_relations.filter _

/-- Where plugins stay installed, relations keep their installations. -/
theorem Attended.of_upholds (h : s.Attended) (hs : s.Sound) (hs' : s'.Sound)
    (hupholds : s.registry.Upholds s'.registry)
    (hmem : ∀ x ∈ s'.relations.relations, x ∈ s.relations.relations ∨ s.registry.Serves x) :
    s'.Attended where
  backed := hupholds.backed hs.registry hs'.registry h.backed
  serves x hx := by
    obtain ⟨hp, hct⟩ : s.registry.Serves x := (hmem x hx).elim (h.serves x) id
    exact ⟨hupholds.mem_keys hs.registry hs'.registry h.backed hp, hct⟩

/-- Uninstalling a plugin takes its relations with it. -/
theorem Attended.uninstallPlugin (h : s.Attended) (hs : s.Reachable) (g p : String) :
    (s.uninstallPlugin g p).2.Attended := by
  have hs' : (s.uninstallPlugin g p).2.Reachable := hs.perform (.uninstallPlugin g p)
  rcases s.uninstallPlugin_eq g p with ⟨-, hu⟩ | ⟨i, hi, hu⟩
  · rw [hu] at hs' ⊢
    exact h.of_upholds hs.sound hs'.sound s.registry.upholds_warm fun x hx => .inl hx
  by_cases he : i.enabler.isEnforced = true
  · rw [if_pos he] at hu
    rw [hu] at hs' ⊢
    exact h.of_upholds hs.sound hs'.sound s.registry.upholds_warm fun x hx => .inl hx
  · rw [if_neg he] at hu
    rw [hu] at hs' ⊢
    have hdrops := drops_deleteByContentType hs.warm i.contentType
    obtain ⟨-, rfl, rfl⟩ := hs.sound.registry.installed.lists hi
    refine ⟨Registry.backed_of_installed_eq hs'.sound.registry rfl, fun x hx => ?_⟩
    change x ∈ (s.warm.deleteByContentType i.contentType).2.relations.relations at hx
    rw [hdrops.relations, List.mem_filter, decide_eq_true_eq] at hx
    obtain ⟨hold, hne⟩ := hx
    obtain ⟨hp, hct⟩ := h.serves x hold
    -- a relation that is left is of another plugin or group type, where nothing was unconfigured
    have hdue := s.registry.upholds_warm.due hs.sound.registry hp (h.backed _ _ hp)
    refine ⟨(Registry.mem_keys_resolve_on_iff hs'.sound.registry.catalog).mpr
      (hdue.unconfigure ?_), hct⟩
    rintro ⟨hg, hp⟩
    exact hne (by rw [hct, ← hg, ← hp]; rfl)

theorem Works.upholds (hw : s.Works s') : s.registry.Upholds s'.registry := by
  rcases hw.registry with hr | hr
  · rw [hr]
    exact Registry.upholds_of_installed_eq rfl rfl rfl rfl
  · rw [hr]
    exact s.registry.upholds_warm

theorem Attended.perform (h : s.Attended) (hs : s.Reachable) {op : Operation}
    (hop : ¬ op.abandons) (hretains : s.registry.Retains (s.perform op).registry) :
    (s.perform op).Attended := by
  have hs' := (hs.perform op).sound
  have hmem := fun x hx => serves_of_mem_perform (x := x) hs op hx
  cases op with
  | setting c =>
    have hc : ∀ g p, c ≠ .uninstall g p := by
      rintro g p rfl
      exact hop rfl
    exact h.of_upholds hs.sound hs' (Registry.upholds_set hc hretains) hmem
  | uninstallPlugin g p => exact h.uninstallPlugin hs g p
  | _ => exact h.of_upholds hs.sound hs' (Works.upholds (works_perform nofun nofun)) hmem

/-- In a run from a site without relations that removes no definition in use, relations go with the
installations of their plugins as long as these have distinct relation bundles. -/
theorem throughout_live {start : Store} (hstart : start.Reachable)
    (hempty : start.relations.relations = []) (hcached : start.registry.cached = none)
    (hops : start.AtEach
      (fun s op => ¬ op.abandons ∧ s.registry.Retains (s.perform op).registry) ops)
    (hd : start.Throughout (fun s => s.registry.installed.Distinct) ops) :
    start.Throughout Live ops := by
  have hattended : start.Attended := by
    refine ⟨Registry.backed_of_installed_eq hstart.sound.registry ?_, fun x hx => ?_⟩
    · rw [Registry.installed, hcached, Option.getD_none]
    · rw [hempty] at hx
      cases hx
  -- distinctness is not needed to stay attended, only to find the installations by relation bundle
  have hrun : start.Throughout (fun s => s.Reachable ∧ s.Attended) ops := by
    refine throughout_of_preserved ?_ ⟨hstart, hattended⟩ hops
    rintro s op ⟨hs, ha⟩ ⟨hop, hretains⟩
    exact ⟨hs.perform op, ha.perform hs hop hretains⟩
  exact (hrun.and hd).mono fun s h => h.1.2.live h.1.1 h.2

/-- Chess has joined Go when clubs may be in clubs no longer. -/
def reform : List Operation := season.dropLast ++ [.uninstallPlugin "club" subclubs]

/-- The memberships in both clubs are left. -/
theorem throughout_live_reform : (fresh .empty ⟨0, 0⟩).Throughout Live reform ∧
    (reform.foldl perform (fresh .empty ⟨0, 0⟩)).relations.relations.map Relation.group = [1, 2] := by
  have hops : (fresh .empty ⟨0, 0⟩).AtEach
      (fun s op => ¬ op.abandons ∧ s.registry.Retains (s.perform op).registry) reform := by
    decide +kernel
  have hnodup : (fresh .empty ⟨0, 0⟩).Throughout
      (fun s => (s.registry.installed.installations.map Installation.contentType).Nodup) reform := by
    decide +kernel
  have hd := hnodup.mono fun s h => InstalledMap.distinct_of_nodup h
  refine ⟨throughout_live (reachable_fresh _ _) rfl rfl hops hd, ?_⟩
  decide +kernel

end Store

end Grouping
