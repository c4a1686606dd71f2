import Grouping.Proofs.Assignment

/-! # When an attachment fails

Whatever the hooks put among the groups and however they vote, an assignment answers: what may not be
added is passed over, and what can be drafted can be saved. An attachment fails only where it looks for
the groups of an entity that counts as saved but has no id.
-/

namespace Grouping.Site

variable {α : Type} {s s' : Site} {item group e : Entity} {f : Failure}

/-- The operation succeeds and leaves a reachable store. -/
def Answers (o : Outcome Site α) : Prop := ∃ a s', o = (.ok a, s') ∧ s'.store.Reachable

theorem answers_attachItem (hs : s.store.Reachable) (item group : Entity) (plugin : String) :
    Answers (s.attachItem item plugin group) := by
  have hreach := reachable_attachItem hs item group plugin
  rcases attachItem_cases hs item group plugin with ⟨s₁, h, -⟩ | ⟨i, r, s₁, h, -⟩
  · rw [h] at hreach
    exact ⟨none, s₁, h, hreach⟩
  · rw [h] at hreach
    exact ⟨some r, s₁, h, hreach⟩

theorem answers_assignToGroup (hs : s.store.Reachable) (policy : AssignPolicy) (item : Entity)
    (plugin : String) (known : List Relation) (group : Entity) :
    Answers (s.assignToGroup policy item plugin known group) := by
  rw [assignToGroup_eq]
  -- the hooks may change while they are asked, the store does not
  generalize hasked : s.asked policy item group = asked
  have hstore := s.store_asked policy item group
  rw [hasked] at hstore
  rw [← hstore] at hs
  split
  · exact ⟨none, asked.2, rfl, hs⟩
  · simp only [attachIfOpen]
    split
    · exact ⟨none, asked.2, rfl, hs⟩
    · exact answers_attachItem hs item group plugin

theorem answers_assignToGroups (policy : AssignPolicy) (item : Entity) (plugin : String)
    (groups : List Entity) : ∀ {s : Site} (known : List Relation), s.store.Reachable →
      Answers (s.assignToGroups policy item plugin known groups) := by
  induction groups with
  | nil =>
    intro s known hs
    exact ⟨[], s, rfl, hs⟩
  | cons group groups ih =>
    intro s known hs
    obtain ⟨o, s₁, h, hs₁⟩ := answers_assignToGroup hs policy item plugin known group
    cases o with
    | none =>
      simp only [assignToGroups, h]
      exact ih known hs₁
    | some r =>
      obtain ⟨rs, s₂, hrest, hs₂⟩ := ih (known ++ [r]) hs₁
      simp only [assignToGroups, h, hrest]
      exact ⟨r :: rs, s₂, rfl, hs₂⟩

theorem answers_assignItem (hs : s.store.Reachable) (policy : AssignPolicy) (item : Entity)
    (groups : List Entity) : Answers (s.assignItem policy item groups) := by
  simp only [assignItem]
  split
  · exact ⟨[], s, rfl, hs⟩
  · next heligible =>
    -- an item without a key is not eligible
    obtain ⟨k, hk⟩ := exists_key_of_isEligible (Decidable.not_not.mp heligible)
    rw [Store.byEntity_of_key hs.sound hk]
    exact answers_assignToGroups policy item _ groups _ hs

theorem answers_assignItems (policy : AssignPolicy) (groups items : List Entity) :
    ∀ {s : Site}, s.store.Reachable → Answers (s.assignItems policy groups items) := by
  induction items with
  | nil =>
    intro s hs
    exact ⟨[], s, rfl, hs⟩
  | cons item items ih =>
    intro s hs
    obtain ⟨rs, s₁, h, hs₁⟩ := answers_assignItem hs policy item groups
    obtain ⟨more, s₂, hrest, hs₂⟩ := ih hs₁
    simp only [assignItems, h, hrest]
    exact ⟨rs ++ more, s₂, rfl, hs₂⟩

theorem answers_assign (hs : s.store.Reachable) (policy : AssignPolicy)
    (items groups : List Entity) : Answers (s.assign policy items groups) :=
  answers_assignItems policy groups items hs.warm

/-! ## Groups and media -/

theorem answers_attachFound (hs : s.store.Reachable) (groups : List Entity) (e : Entity) :
    Answers (match s.media e with
      | ([], s) => (.ok [], s)
      | (items, s) => s.assign .tracked items groups : Outcome Site (List Relation)) := by
  rcases hmedia : s.media e with ⟨items, s₁⟩
  have hs₁ : s₁.store.Reachable := by
    obtain rfl : (s.media e).2 = s₁ := congrArg Prod.snd hmedia
    exact hs
  cases items with
  | nil => exact ⟨[], s₁, rfl, hs₁⟩
  | cons item items => exact answers_assign hs₁ .tracked _ groups

theorem groupsOf_eq_error_iff : s.groupsOf e = .error f ↔
    f = .unsavedEntity "Cannot load GroupContent entities for an unsaved entity." ∧
      e.isGroup = false ∧ e.fieldable = true ∧ e.saved = true ∧ e.id = none := by
  simp only [groupsOf]
  split
  · next hgroup => simp [hgroup]
  · next hgroup =>
    split
    · next hcontent =>
      -- what counts as saved lacks a key only if it lacks an id
      obtain ⟨hfieldable, hsaved⟩ := hcontent
      cases hid : e.id with
      | none =>
        simp [Store.byEntity, Entity.key?, Except.map, hgroup, hfieldable, hsaved, hid, eq_comm]
      | some id => simp [Store.byEntity, Entity.key?, Except.map, hsaved, hid]
    · next hcontent =>
      constructor
      · exact nofun
      · rintro ⟨-, -, hfieldable, hsaved, -⟩
        exact absurd ⟨hfieldable, hsaved⟩ hcontent

theorem attach_of_groups_error (ht : s.settings.tracking = true) (h : s.groupsOf e = .error f) :
    s.attach e = (.error f, s) := by
  simp [attach, contentGroups, ht, h]

theorem answers_attach_of_groups (hs : s.store.Reachable) {groups : List Entity}
    (h : s.groupsOf e = .ok groups) : Answers (s.attach e) := by
  simp only [attach]
  split
  · exact ⟨[], s, rfl, hs⟩
  · simp only [contentGroups, h]
    rcases haltered : s.alterGroups groups e with ⟨altered, s₁⟩
    have hs₁ : s₁.store.Reachable := by
      obtain rfl : (s.alterGroups groups e).2 = s₁ := congrArg Prod.snd haltered
      exact hs
    cases altered with
    | nil => exact ⟨[], s₁, rfl, hs₁⟩
    | cons group groups => exact answers_attachFound hs₁ _ e

theorem answers_attachRelation (hs : s.store.Reachable) (r : Relation) :
    Answers (s.attachRelation r) := by
  simp only [attachRelation]
  split
  · exact ⟨[], s, rfl, hs⟩
  · cases htarget : s.store.loadTarget r with
    | none => exact ⟨[], s, rfl, hs⟩
    | some target =>
      dsimp only
      rcases hgroups : s.relationGroups r target with ⟨groups, s₁⟩
      have hstore : s₁.store = s.store := by
        obtain rfl : (s.relationGroups r target).2 = s₁ := congrArg Prod.snd hgroups
        rfl
      rw [← hstore] at hs htarget
      cases groups with
      | nil => exact ⟨[], s₁, rfl, hs⟩
      | cons group groups =>
        simp only [relationMedia, htarget]
        exact answers_attachFound hs _ target

/-- With tracking on, an entity that has fields and counts as saved, but has no id, makes an attachment
fail, unless it is a group. Nothing else does, and the attachment for a relation never fails. -/
theorem attach_eq_error_iff (hs : s.store.Reachable) (e : Entity) :
    (∀ f, (s.attach e).1 = .error f ↔ s.settings.tracking = true ∧
      f = .unsavedEntity "Cannot load GroupContent entities for an unsaved entity." ∧
        e.isGroup = false ∧ e.fieldable = true ∧ e.saved = true ∧ e.id = none) ∧
    ∀ r, ∃ rs, (s.attachRelation r).1 = .ok rs := by
  constructor
  · intro f
    rw [← groupsOf_eq_error_iff (s := s)]
    constructor
    · intro h
      cases hgroups : s.groupsOf e with
      | error g =>
        cases ht : s.settings.tracking with
        | false => simp [attach, ht] at h
        | true =>
          rw [attach_of_groups_error ht hgroups] at h
          cases h
          exact ⟨rfl, rfl⟩
      | ok groups =>
        obtain ⟨rs, s', hok, -⟩ := answers_attach_of_groups hs hgroups
        rw [hok] at h
        cases h
    · rintro ⟨ht, hgroups⟩
      rw [attach_of_groups_error ht hgroups]
  · intro r
    obtain ⟨rs, s', h, -⟩ := answers_attachRelation hs r
    exact ⟨rs, by rw [h]⟩

/-- The gallery with a hook that puts an image, an unsaved club and a club without its type among the
groups. -/
def strewn : Site :=
  let strays := [Gallery.picture, { Gallery.club 1 with saved := false },
    { Gallery.club 2 with bundle := "team" }]
  { Gallery.site 1 with hooks := { groups := [(none, .plain fun _ groups => groups ++ strays)] } }

/-- Strange groups are passed over, and so is an entity that is not saved. -/
theorem attach_answers_strewn :
    (∃ rs, (strewn.attach Gallery.article).1 = .ok rs) ∧
    (∃ rs, (strewn.attach { Gallery.article with saved := false }).1 = .ok rs) ∧
    ∃ rs, (strewn.attach { Gallery.article with id := none, saved := false }).1 = .ok rs := by
  have hs : strewn.store.Reachable := Gallery.reachable_store 1
  suffices h : ∀ e : Entity, e.saved = false ∨ e.id ≠ none → ∃ rs, (strewn.attach e).1 = .ok rs from
    ⟨h _ (.inr nofun), h _ (.inl rfl), h _ (.inl rfl)⟩
  intro e hkey
  cases h : (strewn.attach e).1 with
  | ok rs => exact ⟨rs, rfl⟩
  | error f =>
    obtain ⟨-, -, -, -, hsaved, hid⟩ := ((attach_eq_error_iff hs e).1 f).mp h
    simp [hsaved, hid] at hkey

/-- The article counts as saved but has no id. -/
theorem attach_fails_without_id : (Gallery.site 1).store.Reachable ∧
    ((Gallery.site 1).attach { Gallery.article with id := none }).1 =
      .error (.unsavedEntity "Cannot load GroupContent entities for an unsaved entity.") :=
  ⟨Gallery.reachable_store 1, by decide +kernel⟩

end Grouping.Site
