import Grouping.Proofs.Request

/-! # Requests that fail

A request that fails leaves the group types and the stored configurations as they are, with one
exception: through a map that is out of date, a configuration can reach a plugin without a definition.
It is stored, and only then the plugin is found missing.
-/

namespace Grouping

namespace Registry

variable {r : Registry} {q : Request} {f : Failure}

/-- The request changes the configuration of a plugin that is still listed, but has no definition. -/
def Overwrites (r : Registry) (q : Request) : Prop :=
  ∃ g plugin c i, q = .updateConfiguration g plugin c ∧
    (r.installedOn g).get? plugin = some i ∧ r.catalog.definitions.get? plugin = none ∧
    (r.configuredOn g).get? plugin ≠ some (i.enabler.lock c)

/-- The second registry has the group types and the configurations of the first. -/
structure Preserves (r r' : Registry) : Prop where
  groupTypes : r'.groupTypes = r.groupTypes
  configuredOn : ∀ g, r'.configuredOn g = r.configuredOn g

theorem preserves_warm (r : Registry) : r.Preserves r.warm :=
  ⟨r.groupTypes_warm, r.configuredOn_warm⟩

theorem preserves_install (h : r.Reachable) {g plugin : String} {c : Option Configuration}
    (hf : (r.install g plugin c).1 = .error f) : r.Preserves (r.install g plugin c).2 := by
  rcases r.install_eq g plugin c with ⟨-, hi⟩ | ⟨hg, ⟨-, hi⟩ | ⟨e, he, hi⟩⟩
  · rw [hi]
    exact ⟨rfl, fun _ => rfl⟩
  · rw [hi]
    exact ⟨rfl, fun _ => rfl⟩
  · rw [hi] at hf ⊢
    split at hf
    · next hhas =>
      rw [if_pos hhas]
      exact ⟨r.warmCatalog.groupTypes_warm, r.warmCatalog.configuredOn_warm⟩
    · -- the definition was looked up before the write, so it is found again
      have hfresh := h.sound.warmCatalog.warm.catalog
      have hg' : g ∈ r.warmCatalog.warm.groupTypes.keys := by
        rw [groupTypes_warm]
        exact hg
      have hdefinition : r.warmCatalog.warm.catalog.definitions.get? plugin = some e := by
        rw [definitions_warm]
        exact he
      rw [reread_configure hfresh hg', hdefinition] at hf
      cases hf

theorem preserves_uninstall {g plugin : String} (hf : (r.uninstall g plugin).1 = .error f) :
    r.Preserves (r.uninstall g plugin).2 := by
  rcases r.uninstall_eq g plugin with ⟨-, hu⟩ | ⟨i, -, hu⟩
  · rw [hu]
    exact r.preserves_warm
  · rw [hu] at hf ⊢
    split at hf
    · next he =>
      rw [if_pos he]
      exact r.preserves_warm
    · cases hf

theorem configuredOn_reread_configure (r : Registry) (g plugin : String) (c : Configuration)
    (g' : String) : ((r.configure g plugin c).reread g plugin).2.configuredOn g' =
      if g = g' then (r.configuredOn g').insert plugin c else r.configuredOn g' :=
  (configuredOn_warm _ g').trans (configuredOn_configure r g plugin c g')

theorem configuredOn_reread_configure_iff (r : Registry) (g plugin : String) (c : Configuration) :
    (∀ g', ((r.configure g plugin c).reread g plugin).2.configuredOn g' = r.configuredOn g') ↔
      (r.configuredOn g).get? plugin = some c := by
  simp only [configuredOn_reread_configure]
  rw [← OrderedMap.insert_eq_self_iff]
  constructor
  · intro h
    exact (if_pos rfl).symm.trans (h g)
  · intro h g'
    split
    · next hg => exact hg ▸ h
    · rfl

/-- An update fails because the plugin is not listed, or because it is listed but has no definition. -/
theorem updateConfiguration_eq_error (h : r.Reachable) {g plugin : String} {c : Configuration}
    (hf : (r.updateConfiguration g plugin c).1 = .error f) :
    ((r.installedOn g).get? plugin = none ∧ (r.updateConfiguration g plugin c).2 = r.warm) ∨
    ∃ i, (r.installedOn g).get? plugin = some i ∧ r.catalog.definitions.get? plugin = none ∧
      (r.updateConfiguration g plugin c).2 =
        ((r.warm.configure g plugin (i.enabler.lock c)).reread g plugin).2 := by
  rcases r.updateConfiguration_eq g plugin c with ⟨hnone, hu⟩ | ⟨i, hi, hu⟩
  · exact .inl ⟨hnone, congrArg Prod.snd hu⟩
  · refine .inr ⟨i, hi, ?_, congrArg Prod.snd hu⟩
    have hg : g ∈ r.warm.groupTypes.keys := by
      rw [groupTypes_warm]
      exact h.within.installed hi
    rw [hu, reread_configure h.sound.warm.catalog hg, definitions_warm] at hf
    split at hf
    · cases hf
    · assumption

theorem not_overwrites (hq : ∀ g plugin c, q ≠ .updateConfiguration g plugin c) :
    ¬ r.Overwrites q := by
  rintro ⟨g, plugin, c, i, h, -⟩
  exact hq g plugin c h

theorem overwrites_updateConfiguration_iff {g plugin : String} {c : Configuration} {i : Installation}
    (hi : (r.installedOn g).get? plugin = some i)
    (hdefinition : r.catalog.definitions.get? plugin = none) :
    r.Overwrites (.updateConfiguration g plugin c) ↔
      (r.configuredOn g).get? plugin ≠ some (i.enabler.lock c) := by
  constructor
  · rintro ⟨g', plugin', c', i', hq, hi', -, hne⟩
    cases hq
    obtain rfl := Option.some.inj (hi.symm.trans hi')
    exact hne
  · intro hne
    exact ⟨g, plugin, c, i, rfl, hi, hdefinition, hne⟩

theorem updateConfiguration_unchanged_iff (h : r.Reachable) {g plugin : String} {c : Configuration}
    (hf : (r.updateConfiguration g plugin c).1 = .error f) :
    (r.updateConfiguration g plugin c).2.groupTypes = r.groupTypes ∧
      ((∀ g', (r.updateConfiguration g plugin c).2.configuredOn g' = r.configuredOn g') ↔
        ¬ r.Overwrites (.updateConfiguration g plugin c)) := by
  rcases updateConfiguration_eq_error h hf with ⟨hnone, hu⟩ | ⟨i, hi, hdefinition, hu⟩
  · rw [hu]
    refine ⟨r.groupTypes_warm, iff_of_true r.configuredOn_warm ?_⟩
    rintro ⟨g', plugin', c', i, hq, hi, -⟩
    cases hq
    rw [hnone] at hi
    cases hi
  · rw [hu, overwrites_updateConfiguration_iff hi hdefinition, not_not, ← configuredOn_warm,
      ← configuredOn_reread_configure_iff]
    constructor
    · exact (groupTypes_warm _).trans r.groupTypes_warm
    · simp only [configuredOn_warm]

/-- A request that fails changes nothing that is stored, unless it overwrites a configuration. -/
theorem failed_unchanged_iff (h : r.Reachable) (hf : (r.respond q).1 = .failed f) :
    (r.respond q).2.groupTypes = r.groupTypes ∧
      ((∀ g, (r.respond q).2.configuredOn g = r.configuredOn g) ↔ ¬ r.Overwrites q) := by
  have hpreserved : ∀ {r' : Registry}, r.Preserves r' →
      (∀ g plugin c, q ≠ .updateConfiguration g plugin c) → r'.groupTypes = r.groupTypes ∧
        ((∀ g, r'.configuredOn g = r.configuredOn g) ↔ ¬ r.Overwrites q) :=
    fun hp hq => ⟨hp.groupTypes, iff_of_true hp.configuredOn (not_overwrites hq)⟩
  cases q with
  | change q => exact hpreserved ⟨rfl, fun _ => rfl⟩ nofun
  | definition q => exact hpreserved ⟨rfl, fun _ => rfl⟩ nofun
  | registerGroupType g => cases hf
  | install g plugin c =>
    exact hpreserved (preserves_install h ((Answer.ofExcept_eq_failed_iff nofun).mp hf)) nofun
  | uninstall g plugin =>
    exact hpreserved (preserves_uninstall ((Answer.ofExcept_eq_failed_iff nofun).mp hf)) nofun
  | installation q => exact hpreserved r.preserves_warm nofun
  | clear => cases hf
  | updateConfiguration g plugin c =>
    exact updateConfiguration_unchanged_iff h ((Answer.ofExcept_eq_failed_iff nofun).mp hf)

/-- A club with its images, whose bundle is gone, though the map still lists the plugin. -/
def imageless : Registry :=
  (ofCatalog (.standard (Bundles.empty.add EntityTypeId.media "image" "Image"))).after
    [.registerGroupType { id := "club", label := "Club" },
      .install "club" (PluginId.media "image") none,
      .change (.removeBundle EntityTypeId.media "image")]

theorem failed_unchanged_imageless :
    (imageless.respond (.install "club" (PluginId.media "image") none)).1 =
        .failed (.pluginNotFound (PluginId.media "image")) ∧
      ∀ g, (imageless.respond (.install "club" (PluginId.media "image") none)).2.configuredOn g =
        imageless.configuredOn g := by
  have hf : (imageless.respond (.install "club" (PluginId.media "image") none)).1 =
      .failed (.pluginNotFound (PluginId.media "image")) := by decide +kernel
  exact ⟨hf, (failed_unchanged_iff ((reachable_standard _).after _) hf).2.mpr (not_overwrites nofun)⟩

/-- The update fails, and yet its configuration is in force when the bundle comes back. -/
theorem failed_overwrites_imageless :
    let r := (imageless.respond (.updateConfiguration "club" (PluginId.media "image")
      { groupLimit := 3 })).2
    imageless.Reachable ∧
      (imageless.respond (.updateConfiguration "club" (PluginId.media "image")
        { groupLimit := 3 })).1 = .failed (.pluginNotFound (PluginId.media "image")) ∧
      (imageless.configuredOn "club").get? (PluginId.media "image") = some { entityLimit := 1 } ∧
      (r.configuredOn "club").get? (PluginId.media "image") =
        some { groupLimit := 3, entityLimit := 1 } ∧
      (r.after [.change (.addBundle EntityTypeId.media "image" "Image"), .clear]).get "club"
          (PluginId.media "image") =
        .ok ⟨"club", .media "image" "Image", { groupLimit := 3, entityLimit := 1 }⟩ := by
  refine ⟨(reachable_standard _).after _, ?_, ?_, ?_, ?_⟩
  · decide +kernel
  · decide +kernel
  · decide +kernel
  · decide +kernel

end Registry

end Grouping
