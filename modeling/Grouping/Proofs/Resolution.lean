import Grouping.Proofs.RelationBundles

/-! # What the registry resolves to

A plugin is installed on a registered group type if its definition is enforced or it is configured
there; a stored configuration goes before the defaults. A remembered map may be out of date about
plugins, but it knows no group type that is not registered.
-/

namespace Grouping

namespace InstalledPlugins

variable {groupType plugin : String} {definitions : DefinitionTable}
  {configured : OrderedMap String Configuration}

theorem mem_keys_foldl_addConfigured {l : List (String × Configuration)} {m : InstalledPlugins}
    (hp : plugin ∈ definitions.keys) (h : plugin ∈ l.map Prod.fst ∨ plugin ∈ m.keys) :
    plugin ∈ OrderedMap.keys (l.foldl (addConfigured groupType definitions) m) := by
  induction l generalizing m with
  | nil => exact h.resolve_left List.not_mem_nil
  | cons c l ih =>
    apply ih
    rw [List.map_cons, List.mem_cons, or_assoc] at h
    unfold addConfigured
    split
    · next hc =>
      rw [OrderedMap.contains_iff_mem_keys] at hc
      rcases h with rfl | h
      · exact .inr hc
      · exact h
    · split
      · next hnone =>
        rw [OrderedMap.get?_eq_none_iff] at hnone
        exact h.resolve_left fun hc => hnone (hc ▸ hp)
      · rw [OrderedMap.mem_keys_insert]
        tauto

theorem mem_keys_resolve {e : Enabler} (hp : definitions.get? plugin = some e) (hid : e.id = plugin)
    (h : e.isEnforced = true ∨ plugin ∈ configured.keys) :
    plugin ∈ OrderedMap.keys (resolve groupType definitions configured) := by
  apply mem_keys_foldl_addConfigured (OrderedMap.mem_keys_iff.mpr ⟨e, hp⟩)
  rcases h with h | h
  · right
    rw [ofEnforced, OrderedMap.mem_keys_foldl_insert]
    exact .inl ⟨e, List.mem_filter.mpr ⟨OrderedMap.mem_values_iff.mpr ⟨plugin, hp⟩, h⟩, hid⟩
  · exact .inl h

theorem get?_resolve_eq_some_iff (hd : definitions.All fun p e => e.id = p) {i : Installation} :
    OrderedMap.get? (resolve groupType definitions configured) plugin = some i ↔
      ∃ e, definitions.get? plugin = some e ∧ (e.isEnforced = true ∨ plugin ∈ configured.keys) ∧
        i = ⟨groupType, e, (configured.get? plugin).getD e.defaults⟩ := by
  have hall : (resolve groupType definitions configured).All fun p i => ∃ e,
      definitions.get? p = some e ∧ (e.isEnforced = true ∨ p ∈ configured.keys) ∧
        i = ⟨groupType, e, (configured.get? p).getD e.defaults⟩ := by
    refine all_resolve ?_ ?_
    · intro p e he hforced
      obtain rfl := hd p e he
      exact ⟨e, he, .inl hforced, rfl⟩
    · intro p c hc e he
      refine ⟨e, he, .inr (OrderedMap.mem_keys_iff.mpr ⟨c, hc⟩), ?_⟩
      rw [hc, Option.getD_some]
  constructor
  · exact hall plugin i
  · rintro ⟨e, he, h, rfl⟩
    have hkeys : plugin ∈ OrderedMap.keys (resolve groupType definitions configured) :=
      mem_keys_resolve he (hd plugin e he) h
    obtain ⟨j, hj⟩ := OrderedMap.mem_keys_iff.mp hkeys
    obtain ⟨e', he', -, rfl⟩ := hall plugin j hj
    obtain rfl := Option.some.inj (he.symm.trans he')
    exact hj

end InstalledPlugins

namespace Registry

variable {r r' : Registry} {g plugin : String} {i : Installation}

theorem get?_resolve_on_eq_some_iff (h : r.catalog.Fresh) :
    (r.resolve.on g).get? plugin = some i ↔ g ∈ r.groupTypes.keys ∧
      ∃ e, r.catalog.definitions.get? plugin = some e ∧
        (e.isEnforced = true ∨ plugin ∈ (r.configuredOn g).keys) ∧
        i = ⟨g, e, ((r.configuredOn g).get? plugin).getD e.defaults⟩ := by
  rw [resolve_on, ← InstalledPlugins.get?_resolve_eq_some_iff h.id_eq]
  split
  · next hg => exact (and_iff_right hg).symm
  · next hg => simp [hg]

/-- A plugin that is configured on a registered group type is found there with that configuration, if it
has a definition. -/
theorem get?_resolve_configure (h : r.catalog.Fresh) (hg : g ∈ r.groupTypes.keys)
    (plugin : String) (c : Configuration) :
    ((r.configure g plugin c).resolve.on g).get? plugin =
      (r.catalog.definitions.get? plugin).map fun e => ⟨g, e, c⟩ := by
  have hget : ((r.configure g plugin c).configuredOn g).get? plugin = some c := by
    rw [configuredOn_configure, if_pos rfl, OrderedMap.get?_insert, if_pos rfl]
  apply Option.ext
  intro i
  rw [get?_resolve_on_eq_some_iff (r := r.configure g plugin c) h, hget, Option.map_eq_some_iff]
  constructor
  · rintro ⟨-, e, he, -, rfl⟩
    exact ⟨e, he, rfl⟩
  · rintro ⟨e, he, rfl⟩
    exact ⟨hg, e, he, .inr (OrderedMap.mem_keys_iff.mpr ⟨c, hget⟩), rfl⟩

theorem reread_configure (h : r.catalog.Fresh) (hg : g ∈ r.groupTypes.keys) (plugin : String)
    (c : Configuration) :
    ((r.configure g plugin c).reread g plugin).1 =
      match r.catalog.definitions.get? plugin with
      | some e => .ok ⟨g, e, c⟩
      | none => .error (.pluginNotFound plugin) := by
  have hon : (r.configure g plugin c).clear.warm.installedOn g =
      (r.configure g plugin c).resolve.on g := installedOn_warm _ g
  unfold reread get
  dsimp only
  rw [hon, get?_resolve_configure h hg]
  cases r.catalog.definitions.get? plugin with
  | none => rfl
  | some e => rfl

/-- What is remembered or configured is about registered group types. -/
structure Within (r : Registry) : Prop where
  cached : ∀ m, r.cached = some m → ∀ g, (m.on g).All fun _ _ => g ∈ r.groupTypes.keys
  configured : ∀ g, (r.configuredOn g).All fun _ _ => g ∈ r.groupTypes.keys

namespace Within

theorem installed (h : r.Within) (hi : (r.installedOn g).get? plugin = some i) :
    g ∈ r.groupTypes.keys := by
  unfold installedOn Registry.installed at hi
  cases hc : r.cached with
  | some m =>
    rw [hc] at hi
    exact h.cached m hc g plugin i hi
  | none =>
    rw [hc, Option.getD_none, resolve_on] at hi
    split at hi
    · assumption
    · cases hi

theorem clear (h : r.Within) : r.clear.Within where
  cached _ hm := absurd hm nofun
  configured := h.configured

theorem withCatalog (h : r.Within) (c : Catalog) : { r with catalog := c }.Within :=
  ⟨h.cached, h.configured⟩

theorem warm (h : r.Within) : r.warm.Within := by
  constructor
  · intro m hm g plugin i hi
    have hlisted : (r.installedOn g).get? plugin = some i := by
      rw [← installedOn_warm, installedOn, Registry.installed, hm]
      exact hi
    rw [groupTypes_warm]
    exact h.installed hlisted
  · simp only [configuredOn_warm, groupTypes_warm]
    exact h.configured

theorem registerGroupType (h : r.Within) (t : GroupType) : (r.registerGroupType t).Within where
  cached _ hm := absurd hm nofun
  configured g plugin c hc := by
    rw [configuredOn_registerGroupType] at hc
    exact OrderedMap.mem_keys_insert.mpr (.inr (h.configured g plugin c hc))

theorem configure (h : r.Within) (hg : g ∈ r.groupTypes.keys) (plugin : String) (c : Configuration) :
    (r.configure g plugin c).Within :=
  ⟨h.cached, all_configuredOn_configure h.configured hg⟩

theorem unconfigure (h : r.Within) (g plugin : String) : (r.unconfigure g plugin).Within := by
  constructor
  · rw [cached_unconfigure, groupTypes_unconfigure]
    exact h.cached
  · rw [groupTypes_unconfigure]
    exact all_configuredOn_unconfigure h.configured g plugin

end Within

theorem Move.within (h : Move r r') (hr : r.Within) : r'.Within := by
  cases h with
  | registerGroupType t => exact hr.registerGroupType t
  | install c hg => exact hr.configure hg _ _
  | update c hi => exact hr.configure (hr.installed hi) _ _
  | unconfigure g plugin => exact hr.unconfigure g plugin
  | clear => exact hr.clear
  | warm => exact hr.warm
  | warmCatalog => exact hr.withCatalog _

theorem within_ofCatalog (c : Catalog) : (ofCatalog c).Within where
  cached _ hm := absurd hm nofun
  configured _ := OrderedMap.all_empty

theorem Reachable.within (h : r.Reachable) : r.Within := by
  induction h with
  | create bundles => exact within_ofCatalog _
  | step _ hstep ih => exact hstep.preserves (fun _ c _ hr => hr.withCatalog c) (fun _ _ hmove => hmove.within) ih

end Registry

end Grouping
