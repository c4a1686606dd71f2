import Grouping.Registry
import Mathlib.Data.List.Nodup

/-! # The map of installations

In every registry that operations can produce, the map of installations is keyed by group type and
plugin, and its index finds an installation of the relation bundle asked for. Where the bundles of the
installations are pairwise distinct, the index finds the installation itself.
-/

namespace Grouping

namespace OrderedMap

variable {κ ν : Type} [DecidableEq κ] {m : OrderedMap κ ν} {P : κ → ν → Prop}

def All (m : OrderedMap κ ν) (P : κ → ν → Prop) : Prop := ∀ k v, m.get? k = some v → P k v

theorem all_empty : (∅ : OrderedMap κ ν).All P := fun _ _ h => absurd h nofun

theorem All.insert (h : m.All P) {k : κ} {v : ν} (hv : P k v) : (m.insert k v).All P := by
  intro j w hw
  rw [get?_insert] at hw
  split at hw
  · next hk =>
    cases hw
    exact hk ▸ hv
  · exact h j w hw

theorem All.erase (h : m.All P) (k : κ) : (m.erase k).All P := by
  intro j w hw
  rw [get?_erase] at hw
  split at hw
  · cases hw
  · exact h j w hw

theorem All.foldl_insert {ι : Type} {key : ι → κ} {value : ι → ν} {l : List ι} (hm : m.All P)
    (h : ∀ i ∈ l, P (key i) (value i)) :
    (l.foldl (fun m i => m.insert (key i) (value i)) m).All P := by
  induction l generalizing m with
  | nil => exact hm
  | cons i r ih =>
    obtain ⟨hi, hr⟩ := List.forall_mem_cons.mp h
    exact ih (hm.insert hi) hr

end OrderedMap

namespace Catalog

/-- A remembered table is the current one. -/
def Fresh (c : Catalog) : Prop := ∀ d, c.cached = some d → d = c.resolve

theorem Fresh.definitions_eq {c : Catalog} (h : c.Fresh) : c.definitions = c.resolve := by
  unfold definitions
  cases hc : c.cached with
  | none => rfl
  | some d => exact h d hc

theorem fresh_clear (c : Catalog) : c.clear.Fresh := fun _ h => absurd h nofun

theorem Fresh.warm {c : Catalog} (h : c.Fresh) : c.warm.Fresh := by
  intro d hd
  cases hd
  exact h.definitions_eq

inductive Step : Catalog → Catalog → Prop
  | register (c : Catalog) (e : Enabler) : Step c (c.register e)
  | registerDerivation (c : Catalog) (d : Derivation) : Step c (c.registerDerivation d)
  | addBundle (c : Catalog) (type bundle label : String) : Step c (c.addBundle type bundle label)
  | removeBundle (c : Catalog) (type bundle : String) : Step c (c.removeBundle type bundle)
  | clear (c : Catalog) : Step c c.clear
  | warm (c : Catalog) : Step c c.warm

theorem Step.fresh {c c' : Catalog} (h : Step c c') (hc : c.Fresh) : c'.Fresh := by
  cases h with
  | register e => exact fresh_clear _
  | registerDerivation d => exact fresh_clear _
  | addBundle type bundle label => exact fresh_clear _
  | removeBundle type bundle =>
    unfold Catalog.removeBundle
    split
    · exact fresh_clear _
    · exact hc
  | clear => exact fresh_clear c
  | warm => exact hc.warm

theorem Fresh.all_definitions {c : Catalog} (h : c.Fresh) :
    c.definitions.All fun p e => e.id = p ∧ e ∈ c.all := by
  rw [h.definitions_eq]
  refine OrderedMap.all_empty.foldl_insert fun x hx => ?_
  obtain ⟨e, he, rfl⟩ := List.mem_map.mp hx
  exact ⟨rfl, he⟩

theorem Fresh.id_eq {c : Catalog} (h : c.Fresh) : c.definitions.All fun p e => e.id = p :=
  fun p e he => (h.all_definitions p e he).1

end Catalog

namespace InstalledPlugins

variable {groupType : String} {definitions : DefinitionTable}
  {configured : OrderedMap String Configuration}

/-- Installations are filed under their plugins, all on one group type. -/
def On (groupType : String) (m : InstalledPlugins) : Prop :=
  m.All fun p i => i.groupType = groupType ∧ i.plugin = p

/-- What is true of enforced enablers and of configured plugins is true of all that is installed. -/
theorem all_resolve {P : String → Installation → Prop}
    (henforced : definitions.All fun _ e => e.isEnforced = true →
      P e.id ⟨groupType, e, (configured.get? e.id).getD e.defaults⟩)
    (hconfigured : configured.All fun p c => ∀ e, definitions.get? p = some e →
      P p ⟨groupType, e, c⟩) :
    (resolve groupType definitions configured).All P := by
  suffices hfold : ∀ (l : List (String × Configuration)) (m : InstalledPlugins),
      (∀ c ∈ l, configured.get? c.1 = some c.2) → m.All P →
      OrderedMap.All (l.foldl (InstalledPlugins.addConfigured groupType definitions) m) P by
    refine hfold _ _ (fun c hc => OrderedMap.mem_entries_iff.mp hc)
      (OrderedMap.all_empty.foldl_insert fun e he => ?_)
    obtain ⟨hvalue, hforced⟩ := List.mem_filter.mp he
    obtain ⟨p, hp⟩ := OrderedMap.mem_values_iff.mp hvalue
    exact henforced p e hp hforced
  intro l
  induction l with
  | nil => exact fun _ _ hm => hm
  | cons c l ih =>
    intro m hl hm
    obtain ⟨hc, hl⟩ := List.forall_mem_cons.mp hl
    apply ih _ hl
    unfold InstalledPlugins.addConfigured
    split
    · exact hm
    · split
      · exact hm
      · next e he => exact hm.insert (hconfigured _ _ hc e he)

theorem on_resolve (hd : definitions.All fun p e => e.id = p) :
    On groupType (resolve groupType definitions configured) :=
  all_resolve (fun _ _ _ _ => ⟨rfl, rfl⟩) fun p _ _ e he => ⟨rfl, hd p e he⟩

end InstalledPlugins

namespace InstalledMap

def Lists (m : InstalledMap) (i : Installation) : Prop := (m.on i.groupType).get? i.plugin = some i

/-- No two installations back one relation bundle. -/
def Distinct (m : InstalledMap) : Prop :=
  ∀ i j, m.Lists i → m.Lists j → i.contentType = j.contentType → i = j

theorem byGroupType_of_on {m : InstalledMap} {groupType plugin : String} {i : Installation}
    (h : (m.on groupType).get? plugin = some i) :
    ∃ plugins ∈ m.byGroupType.values, plugins.get? plugin = some i := by
  unfold on OrderedMap.getD at h
  cases hp : m.byGroupType.get? groupType with
  | none =>
    rw [hp] at h
    cases h
  | some plugins =>
    rw [hp] at h
    exact ⟨plugins, OrderedMap.mem_values_iff.mpr ⟨_, hp⟩, h⟩

theorem mem_pluginIds_iff {m : InstalledMap} {plugin : String} :
    plugin ∈ m.pluginIds ↔ ∃ g, plugin ∈ (m.on g).keys := by
  unfold pluginIds
  rw [Ascending.mem_ofList, List.mem_flatMap]
  constructor
  · rintro ⟨plugins, hplugins, hp⟩
    obtain ⟨g, hg⟩ := OrderedMap.mem_values_iff.mp hplugins
    refine ⟨g, ?_⟩
    rwa [on, OrderedMap.getD, hg, Option.getD_some]
  · rintro ⟨g, hp⟩
    obtain ⟨i, hi⟩ := OrderedMap.mem_keys_iff.mp hp
    obtain ⟨plugins, hplugins, hi⟩ := byGroupType_of_on hi
    exact ⟨plugins, hplugins, OrderedMap.mem_keys_iff.mpr ⟨i, hi⟩⟩

def installations (m : InstalledMap) : List Installation :=
  m.byGroupType.values.flatMap OrderedMap.values

theorem Lists.mem_installations {m : InstalledMap} {i : Installation} (h : m.Lists i) :
    i ∈ m.installations := by
  obtain ⟨plugins, hplugins, hi⟩ := byGroupType_of_on h
  exact List.mem_flatMap.mpr ⟨plugins, hplugins, OrderedMap.mem_values_iff.mpr ⟨_, hi⟩⟩

theorem distinct_of_nodup {m : InstalledMap}
    (h : (m.installations.map Installation.contentType).Nodup) : m.Distinct :=
  fun _ _ hi hj => List.inj_on_of_nodup_map h hi.mem_installations hj.mem_installations

/-- Installations are filed under group type and plugin, and the index by relation bundle finds one
for each bundle that an installation backs. -/
structure Indexed (m : InstalledMap) : Prop where
  on : ∀ groupType, InstalledPlugins.On groupType (m.on groupType)
  found : ∀ i, m.Lists i → (m.byContentType.get? i.contentType).isSome
  listed : m.byContentType.All fun ct i => i.contentType = ct ∧ m.Lists i

theorem Indexed.lists {m : InstalledMap} (h : m.Indexed) {groupType plugin : String}
    {i : Installation} (hi : (m.on groupType).get? plugin = some i) :
    m.Lists i ∧ i.groupType = groupType ∧ i.plugin = plugin := by
  obtain ⟨hg, hp⟩ := h.on groupType plugin i hi
  refine ⟨?_, hg, hp⟩
  rw [Lists, hg, hp]
  exact hi

/-- With distinct relation bundles the index finds the very installation. -/
theorem Indexed.get?_contentType {m : InstalledMap} (h : m.Indexed) (hd : m.Distinct)
    {i : Installation} (hi : m.Lists i) : m.byContentType.get? i.contentType = some i := by
  obtain ⟨j, hj⟩ := Option.isSome_iff_exists.mp (h.found i hi)
  obtain ⟨hct, hlists⟩ := h.listed _ j hj
  rw [hj, hd j i hlists hi hct]

theorem indexed_empty : empty.Indexed where
  on _ := OrderedMap.all_empty
  found _ h := absurd h nofun
  listed := OrderedMap.all_empty

theorem foldl_index_byGroupType (l : List Installation) (m : InstalledMap) :
    (l.foldl index m).byGroupType = m.byGroupType := by
  induction l generalizing m with
  | nil => rfl
  | cons i r ih => exact ih (m.index i)

theorem foldl_index_byContentType (l : List Installation) (m : InstalledMap) :
    (l.foldl index m).byContentType =
      l.foldl (fun t i => t.insert i.contentType i) m.byContentType := by
  induction l generalizing m with
  | nil => rfl
  | cons i r ih => exact ih (m.index i)

theorem on_add (m : InstalledMap) (g : String) (plugins : InstalledPlugins) (groupType : String) :
    (m.add g plugins).on groupType = if g = groupType then plugins else m.on groupType := by
  change ((plugins.values.foldl index m).byGroupType.insert g plugins).getD groupType ∅ = _
  rw [foldl_index_byGroupType, OrderedMap.getD, OrderedMap.get?_insert]
  split
  · rfl
  · rfl

theorem keys_add {m : InstalledMap} {g : String} (hg : g ∉ m.byGroupType.keys)
    (plugins : InstalledPlugins) :
    (m.add g plugins).byGroupType.keys = m.byGroupType.keys ++ [g] := by
  change ((plugins.values.foldl index m).byGroupType.insert g plugins).keys = _
  rw [foldl_index_byGroupType, OrderedMap.keys_insert, if_neg hg]

theorem on_eq_empty {m : InstalledMap} {g : String} (hg : g ∉ m.byGroupType.keys) : m.on g = ∅ := by
  rw [on, OrderedMap.getD, OrderedMap.get?_eq_none_iff.mpr hg, Option.getD_none]

/-- A map stays indexed when a group type is added that it does not have yet. -/
theorem Indexed.add {m : InstalledMap} (h : m.Indexed) {g : String} {plugins : InstalledPlugins}
    (hg : m.on g = ∅) (hp : InstalledPlugins.On g plugins) : (m.add g plugins).Indexed := by
  have hlists : ∀ i, (m.add g plugins).Lists i ↔
      (g = i.groupType ∧ plugins.get? i.plugin = some i) ∨ m.Lists i := by
    intro i
    unfold Lists
    rw [on_add]
    by_cases hi : g = i.groupType
    · rw [if_pos hi, ← hi, hg]
      simp
    · simp [hi]
  refine ⟨fun groupType => ?_, fun i hi => ?_, ?_⟩
  · rw [on_add]
    split
    · next hgt => exact hgt ▸ hp
    · exact h.on groupType
  · apply (OrderedMap.contains_iff_mem_keys _ _).mpr
    change i.contentType ∈ (plugins.values.foldl index m).byContentType.keys
    rw [foldl_index_byContentType, OrderedMap.mem_keys_foldl_insert]
    rcases (hlists i).mp hi with ⟨-, hi⟩ | hi
    · exact .inl ⟨i, OrderedMap.mem_values_iff.mpr ⟨_, hi⟩, rfl⟩
    · exact .inr ((OrderedMap.contains_iff_mem_keys _ _).mp (h.found i hi))
  · change (plugins.values.foldl index m).byContentType.All _
    rw [foldl_index_byContentType]
    refine OrderedMap.All.foldl_insert ?_ ?_
    · intro ct i hi
      obtain ⟨hct, hl⟩ := h.listed ct i hi
      exact ⟨hct, (hlists i).mpr (.inr hl)⟩
    · intro i hi
      obtain ⟨p, hget⟩ := OrderedMap.mem_values_iff.mp hi
      obtain ⟨hgt, rfl⟩ := hp p i hget
      exact ⟨rfl, (hlists i).mpr (.inl ⟨hgt.symm, hget⟩)⟩

end InstalledMap

namespace Registry

/-- What is remembered about the definitions is current, and a remembered map of installations is
indexed, though it may be out of date. -/
structure Sound (r : Registry) : Prop where
  catalog : r.catalog.Fresh
  cached : ∀ m, r.cached = some m → m.Indexed

variable {r r' : Registry}

/-- The map is made by adding one group type after the other. -/
theorem resolve_induction {P : InstalledMap → Prop} (r : Registry) (hempty : P .empty)
    (hadd : ∀ m g, g ∉ m.byGroupType.keys → P m → P (m.add g (r.resolveOn g))) : P r.resolve := by
  suffices hfold : ∀ (l : List String) (m : InstalledMap), l.Nodup →
      (∀ g ∈ l, g ∉ m.byGroupType.keys) → P m →
      P (l.foldl (fun m g => m.add g (r.resolveOn g)) m) from
    hfold _ _ r.groupTypes.nodup_keys (fun _ _ => List.not_mem_nil) hempty
  intro l
  induction l with
  | nil => exact fun _ _ _ hm => hm
  | cons g l ih =>
    intro m hl hfree hm
    obtain ⟨hg, hl⟩ := List.nodup_cons.mp hl
    obtain ⟨hfreeg, hfree⟩ := List.forall_mem_cons.mp hfree
    apply ih _ hl
    · intro j hj
      rw [InstalledMap.keys_add hfreeg, List.mem_append, List.mem_singleton, not_or]
      exact ⟨hfree j hj, fun he => hg (he ▸ hj)⟩
    · exact hadd m g hfreeg hm

theorem Sound.resolve (h : r.Sound) : r.resolve.Indexed := by
  have hon : ∀ g, InstalledPlugins.On g (r.resolveOn g) := fun g =>
    InstalledPlugins.on_resolve h.catalog.id_eq
  exact r.resolve_induction InstalledMap.indexed_empty fun m g hg hm =>
    hm.add (InstalledMap.on_eq_empty hg) (hon g)

theorem resolve_on (r : Registry) (g : String) :
    r.resolve.on g = if g ∈ r.groupTypes.keys then r.resolveOn g else ∅ := by
  suffices hfold : ∀ (l : List String) (m : InstalledMap),
      (l.foldl (fun m g => m.add g (r.resolveOn g)) m).on g =
        if g ∈ l then r.resolveOn g else m.on g from
    hfold _ _
  intro l
  induction l with
  | nil => exact fun _ => (if_neg List.not_mem_nil).symm
  | cons j l ih =>
    intro m
    rw [List.foldl_cons, ih, InstalledMap.on_add]
    by_cases hl : g ∈ l
    · rw [if_pos hl, if_pos (List.mem_cons_of_mem _ hl)]
    · rw [if_neg hl]
      by_cases hj : j = g
      · rw [if_pos hj, hj, if_pos List.mem_cons_self]
      · rw [if_neg hj, if_neg fun h => hl ((List.mem_cons.mp h).resolve_left (Ne.symm hj))]

theorem Sound.installed (h : r.Sound) : r.installed.Indexed := by
  unfold Registry.installed
  cases hc : r.cached with
  | none => exact h.resolve
  | some m => exact h.cached m hc

theorem sound_ofCatalog {c : Catalog} (h : c.Fresh) : (ofCatalog c).Sound :=
  ⟨h, fun _ hm => absurd hm nofun⟩

theorem Sound.clear (h : r.Sound) : r.clear.Sound := ⟨h.catalog, fun _ hm => absurd hm nofun⟩

theorem Sound.warm (h : r.Sound) : r.warm.Sound := by
  unfold Registry.warm
  split
  · exact h
  · exact
      { catalog := h.catalog.warm
        cached := fun m hm => by
          cases hm
          exact h.resolve }

theorem Sound.withCatalog (h : r.Sound) {c : Catalog} (hc : c.Fresh) :
    { r with catalog := c }.Sound :=
  ⟨hc, h.cached⟩

theorem Sound.configure (h : r.Sound) (groupType plugin : String) (c : Configuration) :
    (r.configure groupType plugin c).Sound :=
  ⟨h.catalog, h.cached⟩

theorem Sound.unconfigure (h : r.Sound) (groupType plugin : String) :
    (r.unconfigure groupType plugin).Sound := by
  unfold Registry.unconfigure
  split
  · exact h
  · exact ⟨h.catalog, h.cached⟩

def warmCatalog (r : Registry) : Registry := { r with catalog := r.catalog.warm }

theorem Sound.warmCatalog (h : r.Sound) : r.warmCatalog.Sound := h.withCatalog h.catalog.warm

end Registry

end Grouping
