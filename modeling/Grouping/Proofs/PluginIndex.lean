import Grouping.Proofs.RelationBundles

/-! # The relation bundles of a plugin

The second index of the map leads from a plugin to the relation bundles of its installations. It gathers
them from all group types, and nothing else.
-/

namespace Grouping

namespace InstalledMap

variable {m : InstalledMap} {g p ct : String} {plugins : InstalledPlugins}

/-- The relation bundles under a plugin are those of its installations. -/
def Gathers (m : InstalledMap) : Prop :=
  ∀ p ct, ct ∈ m.contentTypes.getD p [] ↔ ∃ i ∈ m.installations, i.plugin = p ∧ i.contentType = ct

theorem mem_contentTypes_index (m : InstalledMap) (i : Installation) :
    ct ∈ (m.index i).contentTypes.getD p [] ↔
      i.plugin = p ∧ i.contentType = ct ∨ ct ∈ m.contentTypes.getD p [] := by
  have hget : (m.index i).contentTypes.getD p [] =
      ((m.contentTypes.insert i.plugin
        (Ascending.insert i.contentType (m.contentTypes.getD i.plugin []))).get? p).getD [] := rfl
  rw [hget, OrderedMap.get?_insert]
  split
  · next hp =>
    subst hp
    rw [Option.getD_some, Ascending.mem_insert]
    simp [eq_comm]
  · next hp =>
    simp only [hp, false_and, false_or]
    rfl

theorem mem_contentTypes_foldl_index (l : List Installation) (m : InstalledMap) :
    ct ∈ (l.foldl index m).contentTypes.getD p [] ↔
      (∃ i ∈ l, i.plugin = p ∧ i.contentType = ct) ∨ ct ∈ m.contentTypes.getD p [] := by
  induction l generalizing m with
  | nil => simp
  | cons i l ih =>
    rw [List.foldl_cons, ih, mem_contentTypes_index, List.exists_mem_cons_iff, ← or_assoc]
    exact or_congr_left or_comm

theorem Gathers.add (h : m.Gathers) (hg : g ∉ m.byGroupType.keys) : (m.add g plugins).Gathers := by
  intro p ct
  have hget : (m.add g plugins).contentTypes.getD p [] =
      (plugins.values.foldl index m).contentTypes.getD p [] := rfl
  rw [hget, mem_contentTypes_foldl_index, h p ct, installations_add hg]
  simp only [List.mem_append, or_and_right, exists_or]
  exact or_comm

/-- Whatever is in an indexed map is listed under its group type and its plugin. -/
theorem Indexed.lists_of_mem (h : m.Indexed) {i : Installation} (hi : i ∈ m.installations) :
    m.Lists i := by
  obtain ⟨plugins, hplugins, hvalue⟩ := List.mem_flatMap.mp hi
  obtain ⟨g, hg⟩ := OrderedMap.mem_values_iff.mp hplugins
  obtain ⟨p, hp⟩ := OrderedMap.mem_values_iff.mp hvalue
  have hon : m.on g = plugins := by
    rw [InstalledMap.on, OrderedMap.getD, hg, Option.getD_some]
  exact (h.lists (hon ▸ hp)).1

end InstalledMap

namespace Registry

variable {r : Registry} {p ct : String}

theorem gathers_resolve (r : Registry) : r.resolve.Gathers := by
  refine r.resolve_induction ?_ fun _ _ hg hm => hm.add hg
  intro p ct
  exact iff_of_false List.not_mem_nil nofun

theorem Reachable.mem_contentTypesOf_iff (h : r.Reachable) :
    ct ∈ r.contentTypesOf p ↔ ∃ i, r.installed.Lists i ∧ i.plugin = p ∧ i.contentType = ct := by
  obtain ⟨r₀, hr₀⟩ := h.exists_resolve
  have hgathers : r.installed.Gathers := hr₀ ▸ r₀.gathers_resolve
  refine (hgathers p ct).trans ⟨?_, ?_⟩
  · rintro ⟨i, hi, hlink⟩
    exact ⟨i, h.sound.installed.lists_of_mem hi, hlink⟩
  · rintro ⟨i, hi, hlink⟩
    exact ⟨i, hi.mem_installations, hlink⟩

end Registry

end Grouping
