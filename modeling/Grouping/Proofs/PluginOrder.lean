import Grouping.Proofs.PluginIndex
import Grouping.Proofs.Request
import Grouping.Proofs.Upholding

/-! # The plugins of a group type, in order

When the map of installations is read afresh, a group type has the enforced plugins in the order of the
definitions, and after them the others that are configured on it and have a definition, in the order of
their installation. Which plugins these are and how they are configured determines the indexes too.
-/

namespace Grouping

namespace OrderedMap

variable {κ ν : Type} [DecidableEq κ]

theorem keys_foldl_insert {ι : Type} {key : ι → κ} {value : ι → ν} {l : List ι}
    (h : (l.map key).Nodup) :
    (l.foldl (fun m i => m.insert (key i) (value i)) (∅ : OrderedMap κ ν)).keys = l.map key := by
  have hentries := entries_foldl_insert (l := l.map fun i => (key i, value i)) (m := ∅)
    (by rwa [List.map_map]) fun _ _ => List.not_mem_nil
  rw [List.foldl_map] at hentries
  rw [keys, hentries, entries_empty, List.nil_append, List.map_map]
  rfl

end OrderedMap

namespace DefinitionTable

/-- The enabler under the plugin id is enforced. -/
def Enforces (t : DefinitionTable) (p : String) : Prop := ∃ e ∈ t.get? p, e.isEnforced = true

instance (t : DefinitionTable) (p : String) : Decidable (t.Enforces p) :=
  inferInstanceAs (Decidable (∃ e ∈ t.get? p, e.isEnforced = true))

theorem enforces_iff {t : DefinitionTable} {p : String} {e : Enabler} (he : t.get? p = some e) :
    t.Enforces p ↔ e.isEnforced = true := by
  unfold Enforces
  rw [he]
  simp

theorem map_id_enforced {t : DefinitionTable} (hd : t.All fun p e => e.id = p) :
    (t.values.filter Enabler.isEnforced).map Enabler.id = t.keys.filter t.Enforces := by
  have hlist : ∀ l : List (String × Enabler), (∀ x ∈ l, t.get? x.1 = some x.2) →
      ((l.map Prod.snd).filter Enabler.isEnforced).map Enabler.id =
        (l.map Prod.fst).filter t.Enforces := by
    intro l hl
    induction l with
    | nil => rfl
    | cons x l ih =>
      obtain ⟨hx, hl⟩ := List.forall_mem_cons.mp hl
      have hforced := enforces_iff hx
      rw [List.map_cons, List.map_cons]
      by_cases h : x.2.isEnforced = true
      · rw [List.filter_cons_of_pos h, List.filter_cons_of_pos (by simpa using hforced.mpr h),
          List.map_cons, hd _ _ hx, ih hl]
      · rw [List.filter_cons_of_neg h, List.filter_cons_of_neg (by simpa using mt hforced.mp h),
          ih hl]
  exact hlist t.entries fun x hx => OrderedMap.mem_entries_iff.mp hx

end DefinitionTable

namespace InstalledPlugins

variable {groupType : String} {definitions : DefinitionTable}
  {configured : OrderedMap String Configuration}

theorem keys_ofEnforced (hd : definitions.All fun p e => e.id = p) :
    OrderedMap.keys (ofEnforced groupType configured (definitions.values.filter Enabler.isEnforced)) =
      definitions.keys.filter definitions.Enforces := by
  rw [← DefinitionTable.map_id_enforced hd]
  refine OrderedMap.keys_foldl_insert ?_
  rw [DefinitionTable.map_id_enforced hd]
  exact definitions.nodup_keys.filter _

theorem keys_addConfigured (m : InstalledPlugins) (c : String × Configuration) :
    OrderedMap.keys (addConfigured groupType definitions m c) =
      if c.1 ∈ definitions.keys ∧ c.1 ∉ m.keys then m.keys ++ [c.1] else m.keys := by
  unfold addConfigured
  split
  · next hc =>
    rw [OrderedMap.contains_iff_mem_keys] at hc
    rw [if_neg fun h => h.2 hc]
  · next hc =>
    rw [OrderedMap.contains_iff_mem_keys] at hc
    split
    · next hnone =>
      rw [OrderedMap.get?_eq_none_iff] at hnone
      rw [if_neg fun h => hnone h.1]
    · next e he =>
      rw [OrderedMap.keys_insert, if_neg hc,
        if_pos ⟨OrderedMap.mem_keys_iff.mpr ⟨e, he⟩, hc⟩]

/-- Configured plugins are added at the end, those that are there or have no definition are not. -/
theorem keys_foldl_addConfigured {l : List (String × Configuration)} (hl : (l.map Prod.fst).Nodup)
    (m : InstalledPlugins) :
    OrderedMap.keys (l.foldl (addConfigured groupType definitions) m) =
      m.keys ++ (l.map Prod.fst).filter fun p => p ∈ definitions.keys ∧ p ∉ m.keys := by
  induction l generalizing m with
  | nil => exact (List.append_nil _).symm
  | cons c l ih =>
    obtain ⟨hc, hl⟩ := List.nodup_cons.mp hl
    rw [List.foldl_cons, ih hl, keys_addConfigured, List.map_cons]
    by_cases h : c.1 ∈ definitions.keys ∧ c.1 ∉ m.keys
    · -- the new plugin does not come again
      have hrest : (l.map Prod.fst).filter (fun p => p ∈ definitions.keys ∧ p ∉ m.keys ++ [c.1]) =
          (l.map Prod.fst).filter fun p => p ∈ definitions.keys ∧ p ∉ m.keys := by
        refine List.filter_congr fun p hp => ?_
        have hne : p ≠ c.1 := fun he => hc (he ▸ hp)
        simp [hne]
      rw [if_pos h, hrest, List.filter_cons_of_pos (by simpa using h), List.append_assoc]
      rfl
    · rw [if_neg h, List.filter_cons_of_neg (by simpa using h)]

theorem keys_resolve (hd : definitions.All fun p e => e.id = p) :
    OrderedMap.keys (resolve groupType definitions configured) =
      definitions.keys.filter definitions.Enforces ++
        configured.keys.filter fun p => p ∈ definitions.keys ∧ ¬ definitions.Enforces p := by
  rw [resolve, keys_foldl_addConfigured configured.keys_nodup, keys_ofEnforced hd]
  congr 1
  refine List.filter_congr fun p _ => ?_
  by_cases hp : p ∈ definitions.keys <;> simp [hp]

end InstalledPlugins

namespace InstalledMap

variable {m : InstalledMap} {g : String}

def Ascends (m : InstalledMap) : Prop := m.contentTypes.All fun _ l => l.Pairwise (· < ·)

theorem Ascends.getD (h : m.Ascends) (p : String) :
    (m.contentTypes.getD p []).Pairwise (· < ·) := by
  unfold OrderedMap.getD
  cases hl : m.contentTypes.get? p with
  | none => exact List.Pairwise.nil
  | some l => exact h p l hl

theorem Ascends.foldl_index (h : m.Ascends) (l : List Installation) : (l.foldl index m).Ascends := by
  induction l generalizing m with
  | nil => exact h
  | cons i l ih => exact ih (OrderedMap.All.insert h (Ascending.pairwise_insert (h.getD i.plugin)))

end InstalledMap

namespace Registry

variable {r : Registry} {g p : String}

theorem ascends_resolve (r : Registry) : r.resolve.Ascends :=
  r.resolve_induction OrderedMap.all_empty fun _ _ _ hm => hm.foldl_index _

/-- The plugins that are due on a group type: the enforced ones in the order of the definitions, then the
others that are configured and defined in the order of the configurations. -/
def dueOn (r : Registry) (g : String) : List String :=
  if g ∈ r.groupTypes.keys then
    r.catalog.definitions.keys.filter r.catalog.definitions.Enforces ++
      (r.configuredOn g).keys.filter fun p =>
        p ∈ r.catalog.definitions.keys ∧ ¬ r.catalog.definitions.Enforces p
  else []

theorem keys_resolve_on (h : r.catalog.Fresh) (g : String) : (r.resolve.on g).keys = r.dueOn g := by
  rw [resolve_on, dueOn]
  split
  · exact InstalledPlugins.keys_resolve h.id_eq
  · rfl

theorem mem_contentTypes_resolve_iff (h : r.catalog.Fresh) {ct : String} :
    ct ∈ r.resolve.contentTypes.getD p [] ↔ ∃ g, r.Due g p ∧ contentTypeId g p = ct := by
  have hindexed : r.resolve.Indexed := Sound.resolve (r := r.clear) ⟨h, nofun⟩
  rw [r.gathers_resolve p ct]
  constructor
  · rintro ⟨i, hi, rfl, rfl⟩
    exact ⟨i.groupType, (mem_keys_resolve_on_iff h).mp
      (OrderedMap.mem_keys_iff.mpr ⟨i, hindexed.lists_of_mem hi⟩), rfl⟩
  · rintro ⟨g, hdue, rfl⟩
    obtain ⟨i, hi⟩ := OrderedMap.mem_keys_iff.mp ((mem_keys_resolve_on_iff h).mpr hdue)
    obtain ⟨hlists, rfl, rfl⟩ := hindexed.lists hi
    exact ⟨i, hlists.mem_installations, rfl, rfl⟩

/-- After a `clear` just the plugins that are due are installed, in order and as they are configured, and
the indexes are about these. -/
theorem clear_installs_due (h : r.catalog.Fresh) :
    (∀ g p, r.clear.has g p = true ↔ r.Due g p) ∧
    (∀ g, (r.clear.installedOn g).keys = r.dueOn g ∧ (r.dueOn g).Nodup) ∧
    (∀ g p i, (r.clear.installedOn g).get? p = some i →
      i.groupType = g ∧ r.catalog.definitions.get? p = some i.enabler ∧
        i.configuration = ((r.configuredOn g).get? p).getD i.enabler.defaults) ∧
    (r.clear.installed.pluginIds.Pairwise (· < ·) ∧
      ∀ p, p ∈ r.clear.installed.pluginIds ↔ ∃ g, r.clear.has g p = true) ∧
    ∀ p, (r.clear.contentTypesOf p).Pairwise (· < ·) ∧
      ∀ ct, ct ∈ r.clear.contentTypesOf p ↔ ∃ g, r.clear.has g p = true ∧ contentTypeId g p = ct := by
  have hkeys : ∀ g, (r.clear.installedOn g).keys = r.dueOn g := keys_resolve_on h
  have hhas : ∀ g p, r.clear.has g p = true ↔ r.Due g p := by
    intro g p
    exact (OrderedMap.contains_iff_mem_keys _ p).trans (mem_keys_resolve_on_iff h)
  refine ⟨hhas, fun g => ⟨hkeys g, ?_⟩, fun g p i hi => ?_, ⟨?_, fun p => ?_⟩, fun p => ⟨?_, fun ct => ?_⟩⟩
  · rw [← hkeys]
    exact OrderedMap.nodup_keys _
  · obtain ⟨-, e, he, -, rfl⟩ := (get?_resolve_on_eq_some_iff h).mp hi
    exact ⟨rfl, he, rfl⟩
  · exact Ascending.pairwise_ofList _
  · rw [InstalledMap.mem_pluginIds_iff]
    exact exists_congr fun g => (OrderedMap.contains_iff_mem_keys _ p).symm
  · exact r.ascends_resolve.getD p
  · simp only [hhas]
    exact mem_contentTypes_resolve_iff h

/-- Clubs and teams with articles; the bundle of the images that clubs had is gone. -/
def imagesWithdrawn : Registry :=
  (ofCatalog (.standard ((Bundles.empty.add EntityTypeId.media "image" "Image").add EntityTypeId.node
    "article" "Article"))).after
    [.registerGroupType { id := "club", label := "Club" },
      .registerGroupType { id := "team", label := "Team" },
      .install "club" (PluginId.media "image") none, .install "club" Gallery.articles none,
      .updateConfiguration "club" PluginId.membership { groupLimit := 2 },
      .install "team" Gallery.articles none, .change (.removeBundle EntityTypeId.media "image")]

/-- Until the map is read afresh it still lists the images. -/
theorem clear_installs_due_withdrawn : imagesWithdrawn.catalog.Fresh ∧
    (imagesWithdrawn.installedOn "club").keys =
      [PluginId.membership, PluginId.media "image", Gallery.articles] ∧
    (imagesWithdrawn.clear.installedOn "club").keys = [PluginId.membership, Gallery.articles] ∧
    ∃ i, (imagesWithdrawn.clear.installedOn "club").get? PluginId.membership = some i ∧
      i.configuration = { groupLimit := 2, entityLimit := 1 } := by
  have hfresh : imagesWithdrawn.catalog.Fresh := ((reachable_standard _).after _).sound.catalog
  obtain ⟨-, hkeys, hinstance, -⟩ := clear_installs_due hfresh
  refine ⟨hfresh, by decide +kernel, (hkeys "club").1.trans (by decide +kernel), ?_⟩
  obtain ⟨i, hi⟩ : ∃ i, (imagesWithdrawn.clear.installedOn "club").get? PluginId.membership = some i :=
    Option.isSome_iff_exists.mp (by decide +kernel)
  obtain ⟨-, -, hconfiguration⟩ := hinstance _ _ i hi
  have hstored : (imagesWithdrawn.configuredOn "club").get? PluginId.membership =
      some { groupLimit := 2, entityLimit := 1 } := by decide +kernel
  rw [hstored] at hconfiguration
  exact ⟨i, hi, hconfiguration⟩

end Registry

end Grouping
