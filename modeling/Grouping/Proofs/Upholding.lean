import Grouping.Proofs.Operation
import Grouping.Proofs.Resolution

/-! # Plugins that stay installed

A plugin is due on a group type if it would be installed there in a map that is read afresh. As long as
the definitions in use are retained, all settings but the removal of a plugin uphold what is due, so
that what is installed stays installed, whether the map is read afresh or is out of date.
-/

namespace Grouping

namespace Registry

variable {r r' : Registry} {g p : String}

def Due (r : Registry) (g p : String) : Prop :=
  g ∈ r.groupTypes.keys ∧ ∃ e, r.catalog.definitions.get? p = some e ∧
    (e.isEnforced = true ∨ p ∈ (r.configuredOn g).keys)

theorem mem_keys_resolve_on_iff (h : r.catalog.Fresh) : p ∈ (r.resolve.on g).keys ↔ r.Due g p := by
  rw [OrderedMap.mem_keys_iff]
  simp only [get?_resolve_on_eq_some_iff h]
  constructor
  · rintro ⟨i, hg, e, he, hdue, -⟩
    exact ⟨hg, e, he, hdue⟩
  · rintro ⟨hg, e, he, hdue⟩
    exact ⟨_, hg, e, he, hdue, rfl⟩

/-- Whatever is installed is due, though the map may be out of date. -/
def Backed (r : Registry) : Prop := ∀ g p, p ∈ (r.installedOn g).keys → r.Due g p

theorem backed_of_installed_eq (hs : r.Sound) (h : r.installed = r.resolve) : r.Backed := by
  intro g p hp
  rw [installedOn, h] at hp
  exact (mem_keys_resolve_on_iff hs.catalog).mp hp

/-- Plugins that are installed keep a definition, and an enforced one stays enforced. -/
def Retains (r r' : Registry) : Prop :=
  ∀ i ∈ r.installed.installations, ∀ e ∈ r.catalog.definitions.get? i.plugin,
    ∃ e' ∈ r'.catalog.definitions.get? i.plugin, e.isEnforced = true → e'.isEnforced = true

instance (r r' : Registry) : Decidable (r.Retains r') :=
  inferInstanceAs (Decidable (∀ i ∈ r.installed.installations,
    ∀ e ∈ r.catalog.definitions.get? i.plugin,
      ∃ e' ∈ r'.catalog.definitions.get? i.plugin, e.isEnforced = true → e'.isEnforced = true))

theorem retains_of_definitions_eq (h : r'.catalog.definitions = r.catalog.definitions) :
    r.Retains r' := by
  intro i _ e he
  exact ⟨e, h ▸ he, id⟩

/-- What the change keeps up of the first registry, and the map that is read after it. -/
structure Upholds (r r' : Registry) : Prop where
  groupTypes : r.groupTypes.keys ⊆ r'.groupTypes.keys
  configured : ∀ g, (r.configuredOn g).keys ⊆ (r'.configuredOn g).keys
  definitions : r.Retains r'
  installed : r'.installed = r.installed ∨ r'.installed = r'.resolve

theorem Sound.exists_installation (hs : r.Sound) (hp : p ∈ (r.installedOn g).keys) :
    ∃ i, (r.installedOn g).get? p = some i ∧ r.installed.Lists i ∧ i.groupType = g ∧ i.plugin = p := by
  obtain ⟨i, hi⟩ := OrderedMap.mem_keys_iff.mp hp
  exact ⟨i, hi, hs.installed.lists hi⟩

namespace Upholds

theorem due (h : r.Upholds r') (hs : r.Sound) (hp : p ∈ (r.installedOn g).keys)
    (hdue : r.Due g p) : r'.Due g p := by
  obtain ⟨hg, e, he, hwhy⟩ := hdue
  obtain ⟨i, -, hlists, -, rfl⟩ := hs.exists_installation hp
  obtain ⟨e', he', hforced⟩ := h.definitions i hlists.mem_installations e he
  refine ⟨h.groupTypes hg, e', he', ?_⟩
  rcases hwhy with hwhy | hwhy
  · exact .inl (hforced hwhy)
  · exact .inr (h.configured g hwhy)

theorem mem_keys (h : r.Upholds r') (hs : r.Sound) (hs' : r'.Sound) (hb : r.Backed)
    (hp : p ∈ (r.installedOn g).keys) : p ∈ (r'.installedOn g).keys := by
  rcases h.installed with hsame | hread
  · rwa [installedOn, hsame]
  · rw [installedOn, hread, mem_keys_resolve_on_iff hs'.catalog]
    exact h.due hs hp (hb g p hp)

theorem backed (h : r.Upholds r') (hs : r.Sound) (hs' : r'.Sound) (hb : r.Backed) : r'.Backed := by
  rcases h.installed with hsame | hread
  · intro g p hp
    rw [installedOn, hsame] at hp
    exact h.due hs hp (hb g p hp)
  · exact backed_of_installed_eq hs' hread

end Upholds

/-! ## Settings -/

theorem resolve_warm (r : Registry) : r.warm.resolve = r.resolve := by
  unfold resolve resolveOn
  simp only [groupTypes_warm, definitions_warm, configuredOn_warm]

theorem upholds_of_installed_eq (hgroupTypes : r'.groupTypes = r.groupTypes)
    (hconfigured : r'.configured = r.configured)
    (hdefinitions : r'.catalog.definitions = r.catalog.definitions)
    (hinstalled : r'.installed = r.installed) : r.Upholds r' where
  groupTypes := hgroupTypes ▸ List.Subset.refl _
  configured g := by rw [configuredOn, configuredOn, hconfigured]; exact List.Subset.refl _
  definitions := retains_of_definitions_eq hdefinitions
  installed := .inl hinstalled

theorem upholds_warm (r : Registry) : r.Upholds r.warm :=
  upholds_of_installed_eq r.groupTypes_warm r.configured_warm r.definitions_warm r.installed_warm

theorem upholds_warmCatalog_warm (r : Registry) : r.Upholds r.warmCatalog.warm :=
  upholds_of_installed_eq r.warmCatalog.groupTypes_warm r.warmCatalog.configured_warm
    r.warmCatalog.definitions_warm r.warmCatalog.installed_warm

theorem upholds_withCatalog {c : Catalog} (h : r.Retains { r with catalog := c }) :
    r.Upholds { r with catalog := c } where
  groupTypes := List.Subset.refl _
  configured _ := List.Subset.refl _
  definitions := h
  installed := by
    unfold Registry.installed
    cases r.cached with
    | some m => exact .inl rfl
    | none => exact .inr rfl

theorem upholds_registerGroupType {t : GroupType} (h : r.Retains (r.registerGroupType t)) :
    r.Upholds (r.registerGroupType t) where
  groupTypes _ hg := OrderedMap.mem_keys_insert.mpr (.inr hg)
  configured g := by rw [configuredOn_registerGroupType]; exact List.Subset.refl _
  definitions := h
  installed := .inr rfl

theorem upholds_clear (r : Registry) : r.Upholds r.clear where
  groupTypes := List.Subset.refl _
  configured _ := List.Subset.refl _
  definitions := retains_of_definitions_eq rfl
  installed := .inr rfl

/-- A plugin is configured, and the map is read afresh. -/
theorem upholds_configure {r₁ : Registry} (hgroupTypes : r₁.groupTypes = r.groupTypes)
    (hconfigured : r₁.configured = r.configured)
    (hdefinitions : r₁.catalog.definitions = r.catalog.definitions) (g p : String)
    (c : Configuration) : r.Upholds (r₁.configure g p c).clear.warm where
  groupTypes := by
    rw [groupTypes_warm]
    exact hgroupTypes ▸ List.Subset.refl _
  configured g' := by
    have hon : r₁.configuredOn g' = r.configuredOn g' := by rw [configuredOn, hconfigured]; rfl
    rw [configuredOn_warm, configuredOn_clear, configuredOn_configure, hon]
    split
    · exact fun _ hp => OrderedMap.mem_keys_insert.mpr (.inr hp)
    · exact List.Subset.refl _
  definitions := retains_of_definitions_eq ((definitions_warm _).trans hdefinitions)
  installed := .inr (by rw [installed_warm, resolve_warm]; rfl)

theorem upholds_set {c : Setting} (hc : ∀ g p, c ≠ .uninstall g p) (h : r.Retains (r.set c)) :
    r.Upholds (r.set c) := by
  cases c with
  | addBundle type bundle label => exact upholds_withCatalog h
  | removeBundle type bundle => exact upholds_withCatalog h
  | registerGroupType t => exact upholds_registerGroupType h
  | install g p c =>
    change r.Upholds (r.install g p c).2
    rcases r.install_cases g p c with hr | hr | hr | ⟨e, c', -, hr⟩
    · rw [hr]
      exact upholds_of_installed_eq rfl rfl rfl rfl
    · rw [hr]
      exact upholds_of_installed_eq rfl rfl rfl rfl
    · rw [hr]
      exact r.upholds_warmCatalog_warm
    · rw [hr]
      exact upholds_configure (r := r) r.warmCatalog.groupTypes_warm
        r.warmCatalog.configured_warm r.warmCatalog.definitions_warm g p _
  | uninstall g p => exact absurd rfl (hc g p)
  | updateConfiguration g p c =>
    change r.Upholds (r.updateConfiguration g p c).2
    rcases r.updateConfiguration_cases g p c with hr | ⟨i, -, hr⟩
    · rw [hr]
      exact r.upholds_warm
    · rw [hr]
      exact upholds_configure r.groupTypes_warm r.configured_warm r.definitions_warm g p _
  | clear => exact r.upholds_clear

/-- Without its configuration a plugin may be due no longer, the others are. -/
theorem Due.unconfigure {g' p' : String} (h : r.Due g p) (hne : ¬ (g' = g ∧ p' = p)) :
    (r.unconfigure g' p').Due g p := by
  obtain ⟨hg, e, he, hwhy⟩ := h
  refine ⟨by rwa [groupTypes_unconfigure], e, by rwa [catalog_unconfigure], ?_⟩
  refine hwhy.imp_right fun hp => ?_
  rw [configuredOn_unconfigure]
  split
  · next hgg => exact OrderedMap.mem_keys_erase.mpr ⟨hp, fun he => hne ⟨hgg, he.symm⟩⟩
  · exact hp

end Registry

end Grouping
