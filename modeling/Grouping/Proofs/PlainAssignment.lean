import Grouping.Proofs.Assignment

/-! # Assignment without counting ahead

The attachment of media looks at both limits itself, among the relations of an item that it read once
and keeps up to date. The plain assignment leaves the limits to the validation of each relation. Where
every installation backs a relation bundle of its own, both do the same.
-/

namespace Grouping

namespace Site

/-! ## The plain assignment -/

/-- Adds the item to a group on which its plugin is installed and, if that counts, tracks. -/
def tryInstalled (s : Site) (policy : AssignPolicy) (item : Entity) (plugin : String)
    (group : Entity) : Outcome Site (Option Relation) :=
  match (s.store.registry.installedOn group.bundle).get? plugin with
  | none => (.ok none, s)
  | some i =>
    if policy.automatic ∧ ¬ i.tracking then (.ok none, s) else s.attachItem item plugin group

def tryGroup (s : Site) (policy : AssignPolicy) (item : Entity) (plugin : String) (group : Entity) :
    Outcome Site (Option Relation) :=
  let (allowed, s) := if policy.askHooks then s.shouldAttach item group else (true, s)
  if ¬ allowed then (.ok none, s) else s.tryInstalled policy item plugin group

def tryGroups (s : Site) (policy : AssignPolicy) (item : Entity) (plugin : String) :
    List Entity → Outcome Site (List Relation)
  | [] => (.ok [], s)
  | group :: groups =>
    match s.tryGroup policy item plugin group with
    | (.error f, s) => (.error f, s)
    | (.ok o, s) =>
      match tryGroups s policy item plugin groups with
      | (.error f, s) => (.error f, s)
      | (.ok rs, s) => (.ok (o.toList ++ rs), s)

def tryItem (s : Site) (policy : AssignPolicy) (item : Entity) (groups : List Entity) :
    Outcome Site (List Relation) :=
  if ¬ s.isEligible policy item then (.ok [], s)
  else s.tryGroups policy item (PluginId.media item.bundle) groups

/-- Adds every item to every group where hooks, plugin and validation allow it. -/
def assignPlainly (s : Site) (policy : AssignPolicy) (groups : List Entity) :
    List Entity → Outcome Site (List Relation)
  | [] => (.ok [], s)
  | item :: items =>
    match s.tryItem policy item groups with
    | (.error f, s) => (.error f, s)
    | (.ok rs, s) =>
      match assignPlainly s policy groups items with
      | (.error f, s) => (.error f, s)
      | (.ok more, s) => (.ok (rs ++ more), s)

variable {m : InstalledMap} {x : EntityStore} {s s' : Site} {policy : AssignPolicy}
  {item group : Entity} {groups items : List Entity} {plugin : String} {k : EntityKey} {g : Int64}
  {i : Installation} {known : List Relation}

/-! ## One group -/

theorem tryInstalled_of_offers (h : s.Offers policy plugin group i) :
    s.tryInstalled policy item plugin group = s.attachItem item plugin group := by
  unfold tryInstalled
  rw [h.installed]
  exact if_neg fun hu => hu.2 (h.tracking hu.1)

theorem reachable_tryInstalled (hs : s.store.Reachable) (policy : AssignPolicy) (item : Entity)
    (plugin : String) (group : Entity) :
    (s.tryInstalled policy item plugin group).2.store.Reachable := by
  unfold tryInstalled
  split
  · exact hs
  · split
    · exact hs
    · exact reachable_attachItem hs item group plugin

/-- Where the limits that were looked up are reached, the validation refuses the relation. -/
theorem tryInstalled_of_closed (hs : s.store.Reachable) (hm : s.store.registry.installed.Distinct)
    (hitem : s.store.entities.HoldsKeyOf item) (hgroup : s.store.entities.HoldsKeyOf group)
    (hk : item.key? = some k)
    (hclosed : s.opening? policy plugin (s.store.relations.rowsTo k) group = none) :
    ∃ s₁, s.tryInstalled policy item plugin group = (.ok none, s₁) ∧ s.Agrees s₁ := by
  unfold tryInstalled
  split
  · exact ⟨s, rfl, .refl s⟩
  · next i hi =>
    split
    · exact ⟨s, rfl, .refl s⟩
    · next htracking =>
      rcases attachItem_cases hs item group plugin with ⟨s₁, h, ha, -⟩ | ⟨j, r, s₁, -, hj, hv, -⟩
      · exact ⟨s₁, h, ha⟩
      · -- the index leads the validation to the installation whose limits were looked up
        exfalso
        obtain rfl : j = i := Option.some.inj (hj.installed.symm.trans hi)
        obtain rfl : r.link.key = k := Option.some.inj (hj.key.symm.trans hk)
        have hindexed := hs.sound.registry.installed
        have hfound : s.store.registry.ofContentType? r.link.contentType = some j := by
          rw [hj.contentType]
          exact hindexed.get?_contentType hm (hindexed.lists hi).1
        have hadmits := hv j hfound (hgroup _ hj.groupKey) (hitem _ hj.key)
        have hopen := (isSome_opening?_iff hj).mpr ⟨by simpa using htracking, hadmits⟩
        rw [hclosed] at hopen
        cases hopen

/-- Two sites that agree, over the given installations and entities. -/
structure Paired (m : InstalledMap) (x : EntityStore) (s s' : Site) : Prop where
  agrees : s.Agrees s'
  left : s.store.Reachable
  right : s'.store.Reachable
  installed : s.store.registry.installed = m
  entities : s.store.entities = x

/-- The same answer from both, after which the sites are paired again and what is known of the item is
right again. -/
def SameStep (m : InstalledMap) (x : EntityStore) (s : Site) (k : EntityKey)
    (p p' : Outcome Site (Option Relation)) : Prop :=
  ∃ o s₁ s₁', p = (.ok o, s₁) ∧ p' = (.ok o, s₁') ∧ Paired m x s₁ s₁' ∧
    s₁.store.relations.rowsTo k = s.store.relations.rowsTo k ++ o.toList

theorem Paired.skip (h : Paired m x s s') : SameStep m x s k (.ok none, s) (.ok none, s') :=
  ⟨none, s, s', rfl, rfl, h, (List.append_nil _).symm⟩

theorem Paired.attachItem (h : Paired m x s s') (hk : item.key? = some k) (group : Entity)
    (plugin : String) : SameStep m x s k (s.attachItem item plugin group)
      (s'.attachItem item plugin group) := by
  obtain ⟨hanswer, hagrees⟩ := h.agrees.attachItem h.left h.right item group plugin
  have hleft := reachable_attachItem h.left item group plugin
  have hright := reachable_attachItem h.right item group plugin
  rcases hs' : s'.attachItem item plugin group with ⟨answer, s₁'⟩
  rw [hs'] at hanswer hagrees hright
  rcases attachItem_cases h.left item group plugin with
    ⟨s₁, hs, ha, -⟩ | ⟨i, r, s₁, hs, hj, -, hg⟩
  · rw [hs] at hanswer hagrees hleft ⊢
    obtain rfl : answer = .ok none := hanswer
    have hinstalled := ha.store.installed.trans h.installed
    have hentities := ha.store.entities.trans h.entities
    refine ⟨none, s₁, s₁', rfl, rfl, ⟨hagrees, hleft, hright, hinstalled, hentities⟩, ?_⟩
    rw [ha.store.relations]
    exact (List.append_nil _).symm
  · rw [hs] at hanswer hagrees hleft ⊢
    obtain rfl : answer = .ok (some r) := hanswer
    obtain rfl : r.key = k := Option.some.inj (hj.key.symm.trans hk)
    have hinstalled := hg.store.installed.trans h.installed
    have hentities := hg.store.entities.trans h.entities
    exact ⟨some r, s₁, s₁', rfl, rfl, ⟨hagrees, hleft, hright, hinstalled, hentities⟩,
      hg.store.rowsTo h.left.sound⟩

theorem Paired.attachIfOpen (h : Paired m x s s') (hm : m.Distinct) (hitem : x.HoldsKeyOf item)
    (hgroup : x.HoldsKeyOf group) (hk : item.key? = some k) (policy : AssignPolicy)
    (plugin : String) :
    SameStep m x s k
      (s.attachIfOpen policy item plugin (s.store.relations.rowsTo k) group)
      (s'.tryInstalled policy item plugin group) := by
  unfold Site.attachIfOpen
  have hopening := h.agrees.opening?_eq policy plugin (s.store.relations.rowsTo k) group
  cases hopen : s.opening? policy plugin (s.store.relations.rowsTo k) group with
  | none =>
    -- here only the validation of the plain assignment sees a limit
    rw [hopen, ← h.agrees.store.relations] at hopening
    have hinstalled := h.agrees.store.installed.trans h.installed
    have hentities := h.agrees.store.entities.trans h.entities
    obtain ⟨s₁', hs', ha⟩ := tryInstalled_of_closed h.right (hinstalled ▸ hm)
      (hentities ▸ hitem) (hentities ▸ hgroup) hk hopening
    have hreach := reachable_tryInstalled h.right policy item plugin group
    rw [hs'] at hreach ⊢
    exact Paired.skip ⟨h.agrees.trans ha, h.left, hreach, h.installed, h.entities⟩
  | some i =>
    rw [hopen] at hopening
    rw [tryInstalled_of_offers (opening?_eq_some_iff.mp hopening).1]
    exact h.attachItem hk group plugin

theorem Paired.asked (h : Paired m x s s') (policy : AssignPolicy) (item group : Entity) :
    (s'.asked policy item group).1 = (s.asked policy item group).1 ∧
      Paired m x (s.asked policy item group).2 (s'.asked policy item group).2 := by
  obtain ⟨⟨hstore, hhooks, hfinders, hsettings⟩, hleft, hright, hinstalled, hentities⟩ := h
  unfold Site.asked
  split
  · unfold shouldAttach
    rw [hhooks]
    exact ⟨rfl, ⟨hstore, rfl, hfinders, hsettings⟩, hleft, hright, hinstalled, hentities⟩
  · exact ⟨rfl, ⟨hstore, hhooks, hfinders, hsettings⟩, hleft, hright, hinstalled, hentities⟩

theorem tryGroup_eq (s : Site) (policy : AssignPolicy) (item : Entity) (plugin : String)
    (group : Entity) :
    s.tryGroup policy item plugin group =
      if ¬ (s.asked policy item group).1 then (.ok none, (s.asked policy item group).2)
      else (s.asked policy item group).2.tryInstalled policy item plugin group :=
  rfl

theorem Paired.assignToGroup (h : Paired m x s s') (hm : m.Distinct) (hitem : x.HoldsKeyOf item)
    (hgroup : x.HoldsKeyOf group) (hk : item.key? = some k) (policy : AssignPolicy)
    (plugin : String) :
    SameStep m x s k
      (s.assignToGroup policy item plugin (s.store.relations.rowsTo k) group)
      (s'.tryGroup policy item plugin group) := by
  obtain ⟨hallowed, hpaired⟩ := h.asked policy item group
  have hstore := s.store_asked policy item group
  rw [assignToGroup_eq, tryGroup_eq, hallowed, ← hstore]
  split
  · obtain ⟨o, s₁, s₁', h₁, h₂, hlast, hknown⟩ := hpaired.skip
    rw [hstore] at hknown
    exact ⟨o, s₁, s₁', h₁, h₂, hlast, hknown⟩
  · obtain ⟨o, s₁, s₁', h₁, h₂, hlast, hknown⟩ :=
      hpaired.attachIfOpen hm hitem hgroup hk policy plugin
    rw [hstore] at hknown
    exact ⟨o, s₁, s₁', h₁, h₂, hlast, hknown⟩

/-! ## The whole assignment -/

/-- The same answer from both, after which the sites are paired again. -/
def Same {α : Type} (m : InstalledMap) (x : EntityStore) (p p' : Outcome Site α) : Prop :=
  ∃ answer s s', p = (answer, s) ∧ p' = (answer, s') ∧ Paired m x s s'

theorem Paired.assignToGroups (h : Paired m x s s') (hm : m.Distinct) (hitem : x.HoldsKeyOf item)
    (hgroups : ∀ group ∈ groups, x.HoldsKeyOf group) (hk : item.key? = some k)
    (policy : AssignPolicy) (plugin : String) :
    Same m x (s.assignToGroups policy item plugin (s.store.relations.rowsTo k) groups)
      (s'.tryGroups policy item plugin groups) := by
  induction groups generalizing s s' with
  | nil => exact ⟨.ok [], s, s', rfl, rfl, h⟩
  | cons group groups ih =>
    obtain ⟨hgroup, hgroups⟩ := List.forall_mem_cons.mp hgroups
    obtain ⟨o, s₁, s₁', hs, hs', hpaired, hknown⟩ :=
      h.assignToGroup hm hitem hgroup hk policy plugin
    obtain ⟨answer, s₂, s₂', hrest, hrest', hlast⟩ := ih hpaired hgroups
    -- the list that is kept up to date is the list that a new lookup would give
    rw [hknown] at hrest
    unfold Site.assignToGroups tryGroups
    rw [hs, hs']
    dsimp only
    rw [hrest']
    cases o with
    | none =>
      rw [Option.toList_none, List.append_nil] at hrest
      dsimp only
      rw [hrest]
      cases answer with
      | error f => exact ⟨.error f, s₂, s₂', rfl, rfl, hlast⟩
      | ok rs => exact ⟨.ok rs, s₂, s₂', rfl, rfl, hlast⟩
    | some r =>
      rw [Option.toList_some] at hrest
      dsimp only
      rw [hrest]
      cases answer with
      | error f => exact ⟨.error f, s₂, s₂', rfl, rfl, hlast⟩
      | ok rs => exact ⟨.ok (r :: rs), s₂, s₂', rfl, rfl, hlast⟩

theorem Paired.assignItem (h : Paired m x s s') (hm : m.Distinct) (hitem : x.HoldsKeyOf item)
    (hgroups : ∀ group ∈ groups, x.HoldsKeyOf group) (policy : AssignPolicy) :
    Same m x (s.assignItem policy item groups) (s'.tryItem policy item groups) := by
  unfold Site.assignItem tryItem
  rw [h.agrees.isEligible_eq policy item]
  split
  · exact ⟨.ok [], s, s', rfl, rfl, h⟩
  · next heligible =>
    obtain ⟨k, hk⟩ := exists_key_of_isEligible (Decidable.not_not.mp heligible)
    rw [Store.byEntity_of_key h.left.sound hk]
    exact h.assignToGroups hm hitem hgroups hk policy _

theorem Paired.assignItems (h : Paired m x s s') (hm : m.Distinct)
    (hitems : ∀ item ∈ items, x.HoldsKeyOf item) (hgroups : ∀ group ∈ groups, x.HoldsKeyOf group)
    (policy : AssignPolicy) :
    Same m x (s.assignItems policy groups items) (s'.assignPlainly policy groups items) := by
  induction items generalizing s s' with
  | nil => exact ⟨.ok [], s, s', rfl, rfl, h⟩
  | cons item items ih =>
    obtain ⟨hitem, hitems⟩ := List.forall_mem_cons.mp hitems
    obtain ⟨answer, s₁, s₁', hs, hs', hpaired⟩ := h.assignItem hm hitem hgroups policy
    unfold Site.assignItems assignPlainly
    rw [hs, hs']
    cases answer with
    | error f => exact ⟨.error f, s₁, s₁', rfl, rfl, hpaired⟩
    | ok rs =>
      obtain ⟨answer, s₂, s₂', hrest, hrest', hlast⟩ := ih hpaired hitems
      dsimp only
      rw [hrest, hrest']
      cases answer with
      | error f => exact ⟨.error f, s₂, s₂', rfl, rfl, hlast⟩
      | ok more => exact ⟨.ok (rs ++ more), s₂, s₂', rfl, rfl, hlast⟩

/-- An assignment answers the relations that the plain assignment answers, and leaves the same
relations and the same stale tags. -/
theorem assign_eq_assignPlainly (hs : s.store.Reachable)
    (hm : s.store.registry.installed.Distinct)
    (hitems : ∀ item ∈ items, s.store.entities.HoldsKeyOf item)
    (hgroups : ∀ group ∈ groups, s.store.entities.HoldsKeyOf group) (policy : AssignPolicy) :
    (s.assign policy items groups).1 = (s.assignPlainly policy groups items).1 ∧
      (s.assign policy items groups).2.store.relations =
        (s.assignPlainly policy groups items).2.store.relations ∧
      (s.assign policy items groups).2.store.staleTags =
        (s.assignPlainly policy groups items).2.store.staleTags := by
  have ha : ({ s with store := s.store.warm } : Site).Agrees s :=
    (agrees_store s.store.agrees_warm).symm
  have hpaired : Paired s.store.registry.installed s.store.entities
      { s with store := s.store.warm } s :=
    ⟨ha, hs.warm, hs, s.store.agrees_warm.installed, rfl⟩
  obtain ⟨answer, s₁, s₁', hassign, hplain, hlast⟩ :=
    hpaired.assignItems hm hitems hgroups policy
  unfold assign
  rw [hassign, hplain]
  exact ⟨rfl, hlast.agrees.store.relations.symm, hlast.agrees.store.staleTags.symm⟩

/-- An image may be in one club only; of three attempts the first succeeds. -/
theorem assign_eq_assignPlainly_gallery :
    let s := Gallery.site 1
    let items := [Gallery.picture, Gallery.picture]
    let groups := [Gallery.club 1, Gallery.club 2, Gallery.club 1]
    (s.assign .tracked items groups).1 = (s.assignPlainly .tracked groups items).1 ∧
      (s.assign .tracked items groups).2.store.relations =
        (s.assignPlainly .tracked groups items).2.store.relations ∧
      (s.assign .tracked items groups).2.store.staleTags =
        (s.assignPlainly .tracked groups items).2.store.staleTags ∧
      (s.assign .tracked items groups).2.store.relations.size = 2 := by
  intro s items groups
  have hd : s.store.registry.installed.Distinct :=
    InstalledMap.distinct_of_nodup (by decide +kernel)
  have hstored : ∀ e ∈ items ++ groups, e.key?.all fun k => (s.store.entities.load k).isSome := by
    decide +kernel
  have hholds : ∀ e ∈ items ++ groups, s.store.entities.HoldsKeyOf e := by
    intro e he k hk
    simpa [hk] using hstored e he
  obtain ⟨hanswer, hrelations, htags⟩ := assign_eq_assignPlainly (Gallery.reachable_store 1) hd
    (fun e he => hholds e (List.mem_append_left _ he))
    (fun e he => hholds e (List.mem_append_right _ he)) .tracked
  exact ⟨hanswer, hrelations, htags, by decide +kernel⟩

end Site

end Grouping
