import Grouping.Proofs.Assignment

/-! # Runs of assignments

An assignment goes through pairs of an item and a group. With hooks that only answer, a pair is either
passed over, and nothing changes, or it takes the one relation that the validation lets through. While
relations are only added, a pair that was passed over is passed over again.
-/

namespace Grouping

namespace Hook

variable {α β : Type} {h : Hook α β}

theorem IsPlain.call (hp : h.IsPlain) (a : α) (b : β) :
    (h.call a b).hook = h ∧ (h.call a b).notes = [] := by
  suffices hfold : ∀ (rs : List (Receiver α β)) (c : Call α β), (∀ r ∈ rs, r ∈ h.map Prod.snd) →
      (rs.foldl (step a) c).hook = c.hook ∧ (rs.foldl (step a) c).notes = c.notes from
    hfold _ ⟨b, h, []⟩ fun _ hr => hr
  intro rs
  induction rs with
  | nil => exact fun _ _ => ⟨rfl, rfl⟩
  | cons r rs ih =>
    intro c hrs
    obtain ⟨hr, hrs⟩ := List.forall_mem_cons.mp hrs
    obtain ⟨hedits, hnotes⟩ := hp r hr a c.result
    obtain ⟨hhook, hlast⟩ := ih (step a c r) hrs
    refine ⟨hhook.trans ?_, hlast.trans ?_⟩
    · change (r.respond a c.result).edits.foldl edit c.hook = c.hook
      rw [hedits]
      rfl
    · change c.notes ++ (r.respond a c.result).notes = c.notes
      rw [hnotes, List.append_nil]

end Hook

namespace Site

variable {s s' s'' s₁ : Site} {policy : AssignPolicy} {item group : Entity} {k : EntityKey}
  {l : Link} {r : Relation} {rs rs' : List Relation} {ps ps' : List (Entity × Entity)}
  {groups items : List Entity}

theorem asked_of_isPlain (h : s.hooks.attach.IsPlain) (policy : AssignPolicy)
    (item group : Entity) : (s.asked policy item group).2 = s := by
  obtain ⟨hhook, hnotes⟩ := h.call ⟨item, group⟩ {}
  unfold asked
  split
  · unfold shouldAttach Hooks.shouldAttach
    dsimp only
    rw [hhook, hnotes, List.append_nil]
  · rfl

theorem fst_asked (s : Site) (policy : AssignPolicy) (item group : Entity) :
    (s.asked policy item group).1 =
      if policy.askHooks then (s.hooks.shouldAttach item group).1 else true := by
  unfold asked
  split
  · rfl
  · rfl

/-! ## One pair -/

/-- The group takes the item by a relation with the link. -/
structure Takes (s : Site) (policy : AssignPolicy) (item group : Entity) (l : Link) : Prop where
  allowed : (s.asked policy item group).1 = true
  admits : ∃ i, s.store.Joins item group (PluginId.media item.bundle) i l ∧
    (policy.automatic = true → i.tracking = true) ∧ i.Admits s.store.relations l
  validates : s.store.Validates l

theorem Takes.groupKey (h : s.Takes policy item group l) :
    group.key? = some ⟨EntityTypeId.group, .int l.group⟩ := by
  obtain ⟨i, hj, -⟩ := h.admits
  exact hj.groupKey

/-- A pair is passed over, or takes its relation. -/
theorem assignToGroup_cases (hs : s.store.Reachable) (hp : s.hooks.attach.IsPlain)
    (hk : item.key? = some k) (policy : AssignPolicy) (group : Entity) :
    (∃ s₁, s.assignToGroup policy item (PluginId.media item.bundle)
        (s.store.relations.rowsTo k) group = (.ok none, s₁) ∧
      s₁.store.Reachable ∧ s.Agrees s₁ ∧ ∀ l, ¬ s.Takes policy item group l) ∨
    ∃ r s₁, s.assignToGroup policy item (PluginId.media item.bundle)
        (s.store.relations.rowsTo k) group = (.ok (some r), s₁) ∧
      s₁.store.Reachable ∧ s.Gains s₁ r ∧ r.key = k ∧ s.Takes policy item group r.link := by
  rw [assignToGroup_eq, asked_of_isPlain hp]
  cases hallowed : (s.asked policy item group).1 with
  | false =>
    left
    refine ⟨s, rfl, hs, .refl s, fun l h => ?_⟩
    rw [h.allowed] at hallowed
    cases hallowed
  | true =>
    rw [if_neg (not_not_intro rfl)]
    unfold attachIfOpen
    have hreach := reachable_attachItem hs item group (PluginId.media item.bundle)
    cases hopen : s.opening? policy (PluginId.media item.bundle) (s.store.relations.rowsTo k)
      group with
    | none =>
      left
      refine ⟨s, rfl, hs, .refl s, fun l h => ?_⟩
      obtain ⟨i, hj, hi⟩ := h.admits
      obtain rfl : l.key = k := Option.some.inj (hj.key.symm.trans hk)
      have hsome := (isSome_opening?_iff hj).mpr hi
      rw [hopen] at hsome
      cases hsome
    | some i =>
      dsimp only
      rcases attachItem_cases hs item group (PluginId.media item.bundle) with
        ⟨s₁, h, ha, hno⟩ | ⟨j, r, s₁, h, hj, hv, hg⟩
      · left
        rw [h] at hreach ⊢
        refine ⟨s₁, rfl, hreach, ha, fun l ht => ?_⟩
        obtain ⟨j, hj, -⟩ := ht.admits
        exact hno j l hj ht.validates
      · right
        rw [h] at hreach ⊢
        obtain rfl : r.link.key = k := Option.some.inj (hj.key.symm.trans hk)
        have hadmits := (isSome_opening?_iff hj).mp (Option.isSome_of_eq_some hopen)
        exact ⟨r, s₁, rfl, hreach, hg, rfl, hallowed, ⟨j, hj, hadmits⟩, hv⟩

/-- The second site has the given relations on top, which is all that counts in the difference. -/
structure Grows (s : Site) (rs : List Relation) (s' : Site) : Prop where
  relations : s'.store.relations.relations = s.store.relations.relations ++ rs
  entities : s'.store.entities = s.store.entities
  installed : s'.store.registry.installed = s.store.registry.installed
  hooks : s'.hooks = s.hooks
  finders : s'.finders = s.finders
  settings : s'.settings = s.settings

theorem Agrees.grows (h : s.Agrees s') : s.Grows [] s' where
  relations := by rw [h.store.relations, List.append_nil]
  entities := h.store.entities
  installed := h.store.installed
  hooks := h.hooks
  finders := h.finders
  settings := h.settings

theorem Gains.grows (h : s.Gains s' r) (hs : s.store.Reachable) : s.Grows [r] s' where
  relations := h.store.relations hs.sound
  entities := h.store.entities
  installed := h.store.installed
  hooks := h.hooks
  finders := h.finders
  settings := h.settings

theorem Grows.trans (h : s.Grows rs s') (h' : s'.Grows rs' s'') : s.Grows (rs ++ rs') s'' where
  relations := by rw [h'.relations, h.relations, List.append_assoc]
  entities := h'.entities.trans h.entities
  installed := h'.installed.trans h.installed
  hooks := h'.hooks.trans h.hooks
  finders := h'.finders.trans h.finders
  settings := h'.settings.trans h.settings

theorem Grows.links (h : s.Grows rs s') :
    s'.store.relations.links = s.store.relations.links ++ rs.map Relation.link := by
  unfold RelationTable.links
  rw [h.relations, List.map_append]

theorem Grows.isEligible_eq (h : s.Grows rs s') (policy : AssignPolicy) (item : Entity) :
    s'.isEligible policy item = s.isEligible policy item := by
  unfold isEligible
  rw [h.installed, h.settings]

/-- What a group takes after relations were added, it took before. -/
theorem Grows.takes (h : s.Grows rs s') (ht : s'.Takes policy item group l) :
    s.Takes policy item group l := by
  obtain ⟨hallowed, ⟨i, hj, htracking, hadmits⟩, hv⟩ := ht
  have hlinks : s.store.relations.links.Sublist s'.store.relations.links := by
    rw [h.links]
    exact List.sublist_append_left _ _
  refine ⟨?_, ⟨i, hj.congr h.installed.symm, htracking, hadmits.of_sublist hlinks⟩, ?_⟩
  · rwa [fst_asked, h.hooks, ← fst_asked] at hallowed
  · intro j hfound hgroup htarget
    rw [Registry.ofContentType?, ← h.installed] at hfound
    rw [← h.entities] at hgroup htarget
    exact (hv j hfound hgroup htarget).of_sublist hlinks

/-! ## Many pairs -/

/-- The second site comes about from the first one as each of the pairs is passed over or takes its
relation. -/
inductive Assigns (policy : AssignPolicy) :
    Site → List (Entity × Entity) → List Relation → Site → Prop
  | done {s s' : Site} : s.Agrees s' → Assigns policy s [] [] s'
  | skip {s s₁ s' : Site} {item group : Entity} {ps : List (Entity × Entity)}
      {rs : List Relation} :
      s₁.store.Reachable → s.Agrees s₁ → (∀ l, ¬ s.Takes policy item group l) →
      Assigns policy s₁ ps rs s' → Assigns policy s ((item, group) :: ps) rs s'
  | add {s s₁ s' : Site} {item group : Entity} {r : Relation} {ps : List (Entity × Entity)}
      {rs : List Relation} :
      s₁.store.Reachable → s.Gains s₁ r → s.Takes policy item group r.link →
      Assigns policy s₁ ps rs s' → Assigns policy s ((item, group) :: ps) (r :: rs) s'

theorem Assigns.of_agrees_left (h : s.Assigns policy ps rs s') (ha : s''.Agrees s) :
    s''.Assigns policy ps rs s' := by
  cases h with
  | done h => exact .done (ha.trans h)
  | skip hr h hno hrest =>
    exact .skip hr (ha.trans h) (fun l ht => hno l (ha.symm.grows.takes ht)) hrest
  | add hr h ht hrest => exact .add hr (h.of_agrees_left ha) (ha.grows.takes ht) hrest

theorem Assigns.append (h : s.Assigns policy ps rs s') (h' : s'.Assigns policy ps' rs' s'') :
    s.Assigns policy (ps ++ ps') (rs ++ rs') s'' := by
  induction h with
  | done ha => exact h'.of_agrees_left ha
  | skip hr ha hno _ ih => exact .skip hr ha hno (ih h')
  | add hr hg ht _ ih => exact .add hr hg ht (ih h')

theorem Assigns.grows (h : s.Assigns policy ps rs s') (hs : s.store.Reachable) :
    s.Grows rs s' := by
  induction h with
  | done ha => exact ha.grows
  | skip hr ha _ _ ih => exact ha.grows.trans (ih hr)
  | add hr hg _ _ ih => exact (hg.grows hs).trans (ih hr)

theorem Assigns.mem_pair (h : s.Assigns policy ps rs s') (hs : s.store.Reachable)
    (hr : r ∈ rs) : ∃ p ∈ ps, s.Takes policy p.1 p.2 r.link := by
  induction h with
  | done _ => exact absurd hr List.not_mem_nil
  | skip hr₁ ha _ _ ih =>
    obtain ⟨p, hp, ht⟩ := ih hr₁ hr
    exact ⟨p, List.mem_cons_of_mem _ hp, ha.grows.takes ht⟩
  | add hr₁ hg ht _ ih =>
    rcases List.mem_cons.mp hr with rfl | hr
    · exact ⟨_, List.mem_cons_self, ht⟩
    · obtain ⟨p, hp, ht⟩ := ih hr₁ hr
      exact ⟨p, List.mem_cons_of_mem _ hp, (hg.grows hs).takes ht⟩

/-! ## The assignment is a run -/

theorem assigns_assignToGroups (hs : s.store.Reachable) (hp : s.hooks.attach.IsPlain)
    (hk : item.key? = some k) (policy : AssignPolicy) (groups : List Entity) :
    ∃ rs s', s.assignToGroups policy item (PluginId.media item.bundle)
        (s.store.relations.rowsTo k) groups = (.ok rs, s') ∧
      s'.store.Reachable ∧ s.Assigns policy (groups.map (item, ·)) rs s' := by
  induction groups generalizing s with
  | nil => exact ⟨[], s, rfl, hs, .done (.refl s)⟩
  | cons group groups ih =>
    unfold assignToGroups
    rcases assignToGroup_cases hs hp hk policy group with
      ⟨s₁, h, hs₁, ha, hno⟩ | ⟨r, s₁, h, hs₁, hg, rfl, ht⟩
    · obtain ⟨rs, s', hrest, hs', hrun⟩ := ih hs₁ (ha.hooks ▸ hp)
      rw [ha.store.relations] at hrest
      rw [h]
      dsimp only
      rw [hrest]
      exact ⟨rs, s', rfl, hs', .skip hs₁ ha hno hrun⟩
    · obtain ⟨rs, s', hrest, hs', hrun⟩ := ih hs₁ (hg.hooks ▸ hp)
      rw [hg.store.rowsTo hs.sound] at hrest
      rw [h]
      dsimp only
      rw [hrest]
      exact ⟨r :: rs, s', rfl, hs', .add hs₁ hg ht hrun⟩

/-- The pairs of an item that may be attached at all. -/
def pairsOf (s : Site) (policy : AssignPolicy) (groups : List Entity) (item : Entity) :
    List (Entity × Entity) :=
  if s.isEligible policy item then groups.map (item, ·) else []

theorem Grows.pairsOf_eq (h : s.Grows rs s') (policy : AssignPolicy) (groups : List Entity) :
    s'.pairsOf policy groups = s.pairsOf policy groups := by
  funext item
  unfold pairsOf
  rw [h.isEligible_eq]

theorem assigns_assignItem (hs : s.store.Reachable) (hp : s.hooks.attach.IsPlain)
    (policy : AssignPolicy) (groups : List Entity) (item : Entity) :
    ∃ rs s', s.assignItem policy item groups = (.ok rs, s') ∧ s'.store.Reachable ∧
      s.Assigns policy (s.pairsOf policy groups item) rs s' := by
  unfold assignItem pairsOf
  cases heligible : s.isEligible policy item with
  | false => exact ⟨[], s, rfl, hs, .done (.refl s)⟩
  | true =>
    obtain ⟨k, hk⟩ := exists_key_of_isEligible heligible
    rw [if_neg (not_not_intro rfl), if_pos rfl, Store.byEntity_of_key hs.sound hk]
    exact assigns_assignToGroups hs hp hk policy groups

theorem assigns_assignItems (hs : s.store.Reachable) (hp : s.hooks.attach.IsPlain)
    (policy : AssignPolicy) (groups items : List Entity) :
    ∃ rs s', s.assignItems policy groups items = (.ok rs, s') ∧ s'.store.Reachable ∧
      s.Assigns policy (items.flatMap (s.pairsOf policy groups)) rs s' := by
  induction items generalizing s with
  | nil => exact ⟨[], s, rfl, hs, .done (.refl s)⟩
  | cons item items ih =>
    obtain ⟨rs, s₁, h, hs₁, hrun⟩ := assigns_assignItem hs hp policy groups item
    have hgrows := hrun.grows hs
    obtain ⟨rs', s', hrest, hs', hrun'⟩ := ih hs₁ (hgrows.hooks ▸ hp)
    rw [hgrows.pairsOf_eq] at hrun'
    unfold assignItems
    rw [h]
    dsimp only
    rw [hrest]
    exact ⟨rs ++ rs', s', rfl, hs', hrun.append hrun'⟩

/-- With hooks that only answer, an assignment always succeeds. -/
theorem assigns_assign (hs : s.store.Reachable) (hp : s.hooks.attach.IsPlain)
    (policy : AssignPolicy) (items groups : List Entity) :
    ∃ rs s', s.assign policy items groups = (.ok rs, s') ∧ s'.store.Reachable ∧
      s.Assigns policy (items.flatMap (s.pairsOf policy groups)) rs s' := by
  have ha : s.Agrees { s with store := s.store.warm } := agrees_store s.store.agrees_warm
  obtain ⟨rs, s', h, hs', hrun⟩ := assigns_assignItems (s := { s with store := s.store.warm })
    hs.warm hp policy groups items
  rw [ha.grows.pairsOf_eq] at hrun
  exact ⟨rs, s', h, hs', hrun.of_agrees_left ha⟩

end Site

end Grouping
