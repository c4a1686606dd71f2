import Grouping.Proofs.Assignment

/-! # Which installation a relation bundle leads to

The id of a relation bundle is made of two names, and different pairs of names can make the same id.
Of the installations with one id, the last one that is filed is found.
-/

namespace Grouping

/-! ## Ids of relation bundles -/

def hyphenated (plugin : String) : String :=
  String.ofList (plugin.toList.map fun c => if c = ':' then '-' else c)

/-- The group types and plugins make the same id. Either the plugins of one group type differ in colons
and hyphens only, or one group type goes on where the plugin of the other begins. -/
inductive Clash : String → String → String → String → Prop
  | plugins (groupType : String) {plugin plugin' : String} :
      hyphenated plugin = hyphenated plugin' → Clash groupType plugin groupType plugin'
  | left (groupType rest : String) {plugin plugin' : String} :
      hyphenated plugin' = rest ++ "-" ++ hyphenated plugin →
      Clash (groupType ++ "-" ++ rest) plugin groupType plugin'
  | right (groupType rest : String) {plugin plugin' : String} :
      hyphenated plugin = rest ++ "-" ++ hyphenated plugin' →
      Clash groupType plugin (groupType ++ "-" ++ rest) plugin'

theorem Clash.symm {groupType plugin groupType' plugin' : String}
    (h : Clash groupType plugin groupType' plugin') :
    Clash groupType' plugin' groupType plugin := by
  cases h with
  | plugins _ hp => exact .plugins _ hp.symm
  | left _ rest hp => exact .right _ rest hp
  | right _ rest hp => exact .left _ rest hp

theorem toList_contentTypeId (groupType plugin : String) :
    (contentTypeId groupType plugin).toList =
      groupType.toList ++ '-' :: (hyphenated plugin).toList := by
  change (groupType ++ "-" ++ hyphenated plugin).toList = _
  rw [String.toList_append, String.toList_append, List.append_assoc]
  rfl

theorem eq_append_hyphen {s t : String} {rest : List Char}
    (h : s.toList = t.toList ++ '-' :: rest) : s = t ++ "-" ++ String.ofList rest := by
  apply String.toList_inj.mp
  have hrest : (String.ofList rest).toList = rest := String.toList_ofList
  rw [String.toList_append, String.toList_append, List.append_assoc, h, hrest]
  rfl

theorem clash_of_toList {groupType plugin groupType' plugin' : String} {rest : List Char}
    (hg : groupType'.toList = groupType.toList ++ rest)
    (hp : '-' :: (hyphenated plugin).toList = rest ++ '-' :: (hyphenated plugin').toList) :
    Clash groupType plugin groupType' plugin' := by
  cases rest with
  | nil =>
    rw [List.append_nil] at hg
    obtain rfl := String.toList_inj.mp hg
    exact .plugins _ (String.toList_inj.mp (List.cons.inj hp).2)
  | cons c rest =>
    -- the longer group type goes on with the hyphen that separates the other's plugin
    obtain ⟨rfl, hrest⟩ := List.cons.inj hp
    obtain rfl := eq_append_hyphen hg
    have hof : (String.ofList rest).toList = rest := String.toList_ofList
    refine .right _ _ (String.toList_inj.mp ?_)
    rw [hrest, String.toList_append, String.toList_append, List.append_assoc, hof]
    rfl

theorem contentTypeId_eq_iff {groupType plugin groupType' plugin' : String} :
    contentTypeId groupType plugin = contentTypeId groupType' plugin' ↔
      Clash groupType plugin groupType' plugin' := by
  rw [← String.toList_inj, toList_contentTypeId, toList_contentTypeId]
  constructor
  · intro h
    rcases List.append_eq_append_iff.mp h with ⟨rest, hg, hp⟩ | ⟨rest, hg, hp⟩
    · exact clash_of_toList hg hp
    · exact (clash_of_toList hg hp).symm
  · intro h
    cases h with
    | plugins _ hp => rw [hp]
    | left _ rest hp =>
      rw [hp]
      simp
    | right _ rest hp =>
      rw [hp]
      simp

/-! ## The last installation is found -/

namespace InstalledMap

variable {m : InstalledMap} {g : String} {plugins : InstalledPlugins}

/-- Of the installations with one relation bundle the last one is found. -/
def FindsLast (m : InstalledMap) : Prop :=
  ∀ ct, m.byContentType.get? ct = (m.installations.filter fun i => i.contentType = ct).getLast?

theorem installations_add (hg : g ∉ m.byGroupType.keys) :
    (m.add g plugins).installations = m.installations ++ plugins.values := by
  unfold installations OrderedMap.values InstalledMap.add
  dsimp only
  rw [foldl_index_byGroupType, OrderedMap.entries_insert_of_not_mem hg, List.map_append,
    List.flatMap_append]
  simp

theorem FindsLast.add (h : m.FindsLast) (hg : g ∉ m.byGroupType.keys) :
    (m.add g plugins).FindsLast := by
  intro ct
  have hget : (m.add g plugins).byContentType.get? ct =
      (plugins.values.foldl index m).byContentType.get? ct := rfl
  have hlast := OrderedMap.get?_foldl_insert Installation.contentType (fun i => i) plugins.values
    m.byContentType ct
  rw [hget, foldl_index_byContentType, hlast, Option.map_id', h ct, installations_add hg,
    List.filter_append, List.getLast?_append]

theorem FindsLast.get?_eq_some_iff (h : m.FindsLast) {i : Installation} :
    m.byContentType.get? i.contentType = some i ↔
      ∃ l l', m.installations = l ++ i :: l' ∧ ∀ j ∈ l', j.contentType ≠ i.contentType := by
  rw [h, List.getLast?_eq_some_iff]
  constructor
  · rintro ⟨as, has⟩
    obtain ⟨l, l', hl, -, hlast⟩ := List.filter_eq_append_iff.mp has
    obtain ⟨l₁, l₂, rfl, -, -, hnone⟩ := List.filter_eq_cons_iff.mp hlast
    refine ⟨l ++ l₁, l₂, by rw [hl, List.append_assoc], fun j hj => ?_⟩
    simpa using List.filter_eq_nil_iff.mp hnone j hj
  · rintro ⟨l, l', hl, hlast⟩
    refine ⟨l.filter fun j => j.contentType = i.contentType, ?_⟩
    have hnone : (l'.filter fun j => j.contentType = i.contentType) = [] :=
      List.filter_eq_nil_iff.mpr fun j hj => by simpa using hlast j hj
    rw [hl, List.filter_append, List.filter_cons_of_pos (by simp), hnone]

end InstalledMap

namespace Registry

variable {r r' : Registry}

theorem findsLast_resolve (r : Registry) : r.resolve.FindsLast :=
  r.resolve_induction (fun _ => rfl) fun _ _ hg hm => hm.add hg

/-- A remembered map was computed by some registry, maybe by an earlier one. -/
def Computed (r : Registry) : Prop := ∀ m, r.cached = some m → ∃ r₀ : Registry, m = r₀.resolve

theorem Computed.clear (r : Registry) : r.clear.Computed := fun _ hm => absurd hm nofun

theorem Computed.warm (h : r.Computed) : r.warm.Computed := by
  unfold Registry.warm
  split
  · exact h
  · intro m hm
    cases hm
    exact ⟨r, rfl⟩

theorem Move.computed (h : Move r r') (hr : r.Computed) : r'.Computed := by
  cases h with
  | registerGroupType g => exact Computed.clear _
  | install c => exact hr
  | update c => exact hr
  | unconfigure g plugin =>
    intro m hm
    rw [cached_unconfigure] at hm
    exact hr m hm
  | clear => exact Computed.clear r
  | warm => exact hr.warm
  | warmCatalog => exact hr

/-- The registries that operations can produce. -/
inductive Reachable : Registry → Prop
  | create (bundles : Bundles) : Reachable (.ofCatalog (.ofBundles bundles))
  | step {r r' : Registry} : Reachable r → Step r r' → Reachable r'

theorem Reachable.sound (h : r.Reachable) : r.Sound := by
  induction h with
  | create bundles => exact sound_ofCatalog fun _ h => absurd h nofun
  | step _ hstep ih => exact hstep.sound ih

theorem Reachable.exists_resolve (h : r.Reachable) : ∃ r₀ : Registry, r.installed = r₀.resolve := by
  have hcomputed : r.Computed := by
    induction h with
    | create bundles => exact fun _ hm => absurd hm nofun
    | step _ hstep ih => exact hstep.preserves (fun _ _ _ hr => hr) (fun _ _ hmove => hmove.computed) ih
  unfold Registry.installed
  cases hc : r.cached with
  | none => exact ⟨r, rfl⟩
  | some m => exact hcomputed m hc

theorem Reachable.findsLast (h : r.Reachable) : r.installed.FindsLast := by
  obtain ⟨r₀, hr₀⟩ := h.exists_resolve
  rw [hr₀]
  exact r₀.findsLast_resolve

/-- An installed plugin shares the id of its relation bundle with what it clashes with, and the id leads
to it exactly if no installation that is filed later clashes with it. -/
theorem ofContentType?_eq_some_iff_last (h : r.Reachable) {groupType plugin : String}
    {i : Installation} (hi : (r.installedOn groupType).get? plugin = some i) :
    (∀ groupType' plugin', contentTypeId groupType' plugin' = contentTypeId groupType plugin ↔
      Clash groupType' plugin' groupType plugin) ∧
    (r.ofContentType? (contentTypeId groupType plugin) = some i ↔
      ∃ l l', r.installed.installations = l ++ i :: l' ∧
        ∀ j ∈ l', ¬ Clash j.groupType j.plugin groupType plugin) := by
  obtain ⟨-, rfl, rfl⟩ := h.sound.installed.lists hi
  refine ⟨fun _ _ => contentTypeId_eq_iff, ?_⟩
  refine h.findsLast.get?_eq_some_iff.trans ?_
  simp only [ne_eq, ← contentTypeId_eq_iff]
  rfl

theorem ofContentType?_gallery :
    (Gallery.registry 1).ofContentType? (contentTypeId "club" (PluginId.media "image")) =
      some ⟨"club", .media "image" "Image", ⟨1, 1, true, false, ""⟩⟩ := by
  have hr : (Gallery.registry 1).Reachable := by
    have h := Reachable.create .empty
    have h := h.step (.catalog (.register _ (.media "image" "Image")))
    have h := h.step (.catalog (.register _ (.node "article" "Article")))
    have h := h.step (.registerGroupType _ { id := "club", label := "Club" })
    have h := h.step (.install _ "club" (PluginId.media "image")
      (some { groupLimit := 1, tracking := true }))
    exact h.step (.install _ "club" Gallery.articles none)
  have hinstallations : (Gallery.registry 1).installed.installations =
      [⟨"club", .media "image" "Image", ⟨1, 1, true, false, ""⟩⟩,
        ⟨"club", .node "article" "Article", {}⟩] := by decide +kernel
  refine (ofContentType?_eq_some_iff_last hr (by decide +kernel)).2.mpr
    ⟨[], _, hinstallations, fun j hj hclash => ?_⟩
  rw [List.mem_singleton] at hj
  subst hj
  rw [← contentTypeId_eq_iff] at hclash
  revert hclash
  decide +kernel

/-- Media bundles whose names differ in a colon and a hyphen; the later installation is found for both. -/
theorem ofContentType?_shared : ∃ (r : Registry) (i j : Installation), r.Reachable ∧
    (r.installedOn "club").get? (PluginId.media "a:b") = some i ∧
    (r.installedOn "club").get? (PluginId.media "a-b") = some j ∧
    contentTypeId "club" (PluginId.media "a:b") = contentTypeId "club" (PluginId.media "a-b") ∧
    r.ofContentType? (contentTypeId "club" (PluginId.media "a:b")) = some j ∧
    i.plugin ≠ j.plugin ∧ i.groupLimit = 1 ∧ j.groupLimit = 0 := by
  let bundles := (Bundles.empty.add EntityTypeId.media "a:b" "Photos").add EntityTypeId.media "a-b"
    "Films"
  have h := (Reachable.create bundles).step (.catalog (.register _ .membership))
  have h := h.step (.catalog (.registerDerivation _ .media))
  have h := h.step (.registerGroupType _ { id := "club", label := "Club" })
  have h := h.step (.install _ "club" (PluginId.media "a:b") (some ⟨1, 1, true, false, ""⟩))
  have h := h.step (.install _ "club" (PluginId.media "a-b") (some ⟨0, 1, false, false, ""⟩))
  refine ⟨_, ⟨"club", .media "a:b" "Photos", ⟨1, 1, true, false, ""⟩⟩,
    ⟨"club", .media "a-b" "Films", ⟨0, 1, false, false, ""⟩⟩, h, ?_, ?_, ?_, ?_, ?_, rfl, rfl⟩
  · decide +kernel
  · decide +kernel
  · decide +kernel
  · decide +kernel
  · decide +kernel

end Registry

end Grouping
