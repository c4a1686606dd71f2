import Grouping.Proofs.Agreement
import Grouping.Proofs.Room

/-! # Adding one item to one group

An item joins a group exactly if a relation can be drafted and the validation leaves room for its link.
Otherwise nothing happens to the store but that it may remember more.
-/

namespace Grouping

theorem Enabler.accepts_iff {e : Enabler} {x : Entity} :
    e.accepts x = true ↔ e.entityType = x.type ∧ ¬ e.bundle.any (fun b => b ≠ x.bundle) = true := by
  unfold accepts
  rw [Bool.and_eq_true, decide_eq_true_eq, eq_comm]
  refine and_congr_right fun _ => ?_
  cases e.bundle with
  | none => simp
  | some b => simp

namespace Store

variable {s s' s'' : Store} {entity group : Entity} {plugin : String} {i : Installation} {l : Link}

/-- A draft for the entity and the group has the link, through the installation. -/
structure Joins (s : Store) (entity group : Entity) (plugin : String) (i : Installation)
    (l : Link) : Prop where
  groupKey : group.key? = some ⟨EntityTypeId.group, .int l.group⟩
  key : entity.key? = some l.key
  installed : (s.registry.installedOn group.bundle).get? plugin = some i
  accepts : i.enabler.accepts entity = true
  contentType : l.contentType = i.contentType
  plugin_eq : l.plugin = plugin

theorem Joins.congr (h : s.Joins entity group plugin i l)
    (hinst : s'.registry.installed = s.registry.installed) : s'.Joins entity group plugin i l := by
  obtain ⟨hgroup, hkey, hi, haccepts, hct, hplugin⟩ := h
  refine ⟨hgroup, hkey, ?_, haccepts, hct, hplugin⟩
  rwa [Registry.installedOn, hinst]

theorem Joins.unique {j : Installation} {m : Link} (h : s.Joins entity group plugin i l)
    (h' : s.Joins entity group plugin j m) : i = j ∧ l = m := by
  obtain ⟨hgroup, hkey, hi, -, hct, hplugin⟩ := h
  obtain ⟨hgroup', hkey', hj, -, hct', hplugin'⟩ := h'
  obtain rfl : i = j := Option.some.inj (hi.symm.trans hj)
  refine ⟨rfl, ?_⟩
  obtain ⟨g, ct, p, k⟩ := l
  obtain ⟨g', ct', p', k'⟩ := m
  obtain rfl : k = k' := Option.some.inj (hkey.symm.trans hkey')
  rw [hgroup] at hgroup'
  cases hgroup'
  cases hct.trans hct'.symm
  cases hplugin.trans hplugin'.symm
  rfl

theorem serving_eq_ok_iff {plugins : InstalledPlugins} :
    serving plugins entity plugin = .ok i ↔
      plugins.get? plugin = some i ∧ i.enabler.accepts entity = true := by
  constructor
  · intro h
    have hi := serving_eq_ok h
    refine ⟨hi, Enabler.accepts_iff.mpr ?_⟩
    unfold serving at h
    rw [hi] at h
    dsimp only at h
    split at h
    · cases h
    · next htype =>
      split at h
      · cases h
      · next hbundle => exact ⟨Decidable.not_not.mp htype, hbundle⟩
  · rintro ⟨hi, haccepts⟩
    obtain ⟨htype, hbundle⟩ := Enabler.accepts_iff.mp haccepts
    unfold serving
    rw [hi]
    dsimp only
    rw [if_neg (fun h => h htype), if_neg hbundle]

theorem resolveTarget_fst {groupType : String} {k : EntityKey} (hk : entity.key? = some k) :
    (s.resolveTarget entity groupType plugin).1 =
      (serving (s.registry.installedOn groupType) entity plugin).map (k.id, ·) := by
  unfold resolveTarget
  rw [hk]
  dsimp only
  rw [Registry.installedOn, s.agrees_warm.installed]
  rfl

theorem draft_of_joins (h : s.Joins entity group plugin i l) :
    ∃ r s₁, s.draft entity group plugin = (.ok r, s₁) ∧ r.id = none ∧ r.link = l := by
  have hserving := serving_eq_ok_iff.mpr ⟨h.installed, h.accepts⟩
  have htype := (Entity.key?_eq_some_iff.mp h.key).2.2
  have hdraft := s.draft_eq entity group plugin
  rw [groupId_of_key h.groupKey, resolveTarget_fst h.key, hserving] at hdraft
  refine ⟨_, (s.draft entity group plugin).2, Prod.ext hdraft rfl, rfl, ?_⟩
  obtain ⟨g, ct, p, k⟩ := l
  obtain ⟨-, -, -, -, rfl, rfl⟩ := h
  cases k
  cases htype
  rfl

theorem joins_of_draft {r : Relation} {s₁ : Store}
    (h : s.draft entity group plugin = (.ok r, s₁)) :
    r.id = none ∧ ∃ i, s.Joins entity group plugin i r.link := by
  obtain ⟨i, hd⟩ := drafts_of_draft h
  refine ⟨hd.isDraft, i, hd.groupKey, hd.key?, hd.installed, ?_, hd.contentType, hd.plugin_eq⟩
  have hdraft := s.draft_eq entity group plugin
  rw [h, groupId_of_key hd.groupKey, resolveTarget_fst hd.key?] at hdraft
  cases hserving : serving (s.registry.installedOn group.bundle) entity plugin with
  | error f =>
    rw [hserving] at hdraft
    cases hdraft
  | ok j =>
    obtain ⟨hj, haccepts⟩ := serving_eq_ok_iff.mp hserving
    rw [hd.installed] at hj
    cases hj
    exact haccepts

theorem not_joins_of_draft {f : Failure} (h : s.draft entity group plugin = (.error f, s')) :
    ¬ s.Joins entity group plugin i l := by
  intro hjoins
  obtain ⟨r, s₁, hok, -⟩ := draft_of_joins hjoins
  rw [h] at hok
  cases hok

theorem Joins.isSome_ofContentType? (h : s.Joins entity group plugin i l) (hs : s.Sound) :
    (s.registry.ofContentType? l.contentType).isSome := by
  have hindexed := hs.registry.installed
  rw [h.contentType]
  exact hindexed.found i (hindexed.lists h.installed).1

theorem byEntity_of_key (hs : s.Sound) {k : EntityKey} (hk : entity.key? = some k) :
    s.byEntity entity = .ok (s.relations.rowsTo k) := by
  unfold Store.byEntity
  rw [hk]
  dsimp only
  rw [hs.relations.select_ofTarget]

/-! ## Saving a draft -/

/-- The second store holds one relation more, which was reported; otherwise they agree. -/
def Gains (s s' : Store) (r : Relation) : Prop :=
  ∃ row, r = s.relations.inserted row ∧
    (Store.report { s with relations := (s.relations.insert row).2 } r).Agrees s'

variable {r : Relation}

theorem Gains.entities (h : s.Gains s' r) : s'.entities = s.entities := by
  obtain ⟨row, -, ha⟩ := h
  exact ha.entities

theorem Gains.installed (h : s.Gains s' r) : s'.registry.installed = s.registry.installed := by
  obtain ⟨row, -, ha⟩ := h
  exact ha.installed

theorem Gains.relations (h : s.Gains s' r) (hs : s.Sound) :
    s'.relations.relations = s.relations.relations ++ [r] := by
  obtain ⟨row, rfl, ha⟩ := h
  rw [ha.relations]
  exact RelationTable.relations_insert hs.relations row

theorem Gains.links (h : s.Gains s' r) (hs : s.Sound) :
    s'.relations.links = s.relations.links ++ [r.link] := by
  unfold RelationTable.links
  rw [h.relations hs, List.map_append]
  rfl

theorem Gains.rowsTo (h : s.Gains s' r) (hs : s.Sound) :
    s'.relations.rowsTo r.key = s.relations.rowsTo r.key ++ [r] := by
  unfold RelationTable.rowsTo
  rw [h.relations hs, List.filter_append, List.filter_cons_of_pos (by exact decide_eq_true rfl)]
  rfl

theorem Gains.of_agrees_left (ha : s.Agrees s') (h : s'.Gains s'' r) : s.Gains s'' r := by
  obtain ⟨row, hr, hs⟩ := h
  refine ⟨row, by rwa [ha.relations] at hr, Agrees.trans ?_ hs⟩
  rw [ha.relations]
  exact ha.report _ _

theorem Agrees.validates_iff (ha : s.Agrees s') : s'.Validates l ↔ s.Validates l := by
  unfold Validates Registry.ofContentType?
  rw [ha.installed, ha.entities, ha.relations]

/-- Whoever writes a draft gains its link. -/
theorem Writes.gains {s₁ : Store} {r' : Relation} {t : RelationTable} (hw : s.Writes r r' t)
    (hid : r.id = none) (ha : s.Agrees s₁) :
    r'.link = r.link ∧ s.Gains (Store.report { s₁ with relations := t } r') r' := by
  cases hw with
  | add i => exact ⟨rfl, s.added i r, rfl, ha.report _ _⟩
  | rewrite i id old hid' =>
    rw [hid] at hid'
    cases hid'

/-- Where the installation of its relation bundle is known, a draft is refused or saved, and which of
the two the room for its link decides. -/
theorem saveValidated_draft (hs : s.Sound) (hid : r.id = none)
    (hct : (s.registry.ofContentType? r.contentType).isSome) :
    (∃ vs s₁, s.saveValidated r = (.ok (.refused vs), s₁) ∧ s.Agrees s₁ ∧ ¬ s.Validates r.link) ∨
      ∃ r' s₁, s.saveValidated r = (.ok (.saved r'), s₁) ∧ s.Validates r.link ∧ r'.link = r.link ∧
        s.Gains s₁ r' := by
  have hagrees := s.agrees_violations r
  obtain ⟨vs, hvs⟩ := exists_violations hs r
  rcases s.saveValidated_cases r with ⟨-, hnot⟩ | ⟨r', t, s₁, hnil, hw, ha, hsave⟩
  · left
    rcases hx : s.violations r with ⟨x, s₁⟩
    rw [hx] at hvs hagrees
    obtain rfl : x = .ok vs := hvs
    cases vs with
    | nil =>
      -- a draft without violations is saved
      exfalso
      obtain ⟨i, hi⟩ := Option.isSome_iff_exists.mp hct
      have hi₁ : s₁.registry.ofContentType? r.contentType = some i := by
        rwa [Registry.ofContentType?, hagrees.installed]
      have hrow := save_draft hid hi₁
      refine hnot (s₁.relations.inserted (s₁.added i r)) ?_
      unfold saveValidated
      rw [hx]
      dsimp only
      rcases hy : s₁.save r with ⟨y, s₂⟩
      rw [hy] at hrow
      obtain rfl : y = .ok _ := hrow
      rfl
    | cons v vs =>
      refine ⟨v :: vs, s₁, ?_, hagrees, fun h => ?_⟩
      · unfold saveValidated
        rw [hx]
      · rw [← violations_eq_nil_iff hs hid, hx] at h
        cases h
  · obtain ⟨hlink, hgains⟩ := hw.gains hid ha
    exact .inr ⟨r', _, hsave, (violations_eq_nil_iff hs hid).mp hnil, hlink, hgains⟩

/-- The draft for an entity that joins a group is refused or saved, whatever else is entered into it,
as the room for its only link decides. -/
theorem saveValidated_joining (hs : s.Reachable)
    (hdraft : s.draft entity group plugin = (.ok r, s')) (r₁ : Relation) (hid : r₁.id = r.id)
    (hlink : r₁.link = r.link) :
    (∃ vs s₁, s'.saveValidated r₁ = (.ok (.refused vs), s₁) ∧ s.Agrees s₁ ∧
      ∀ i l, s.Joins entity group plugin i l → ¬ s.Validates l) ∨
    ∃ i r' s₁, s'.saveValidated r₁ = (.ok (.saved r'), s₁) ∧
      s.Joins entity group plugin i r'.link ∧ s.Validates r'.link ∧ s.Gains s₁ r' := by
  have ha := s.agrees_draft entity group plugin
  have hreach := hs.draft entity group plugin
  rw [hdraft] at ha hreach
  obtain ⟨hnone, i, hjoins⟩ := joins_of_draft hdraft
  have hct : (s'.registry.ofContentType? r₁.link.contentType).isSome := by
    rw [Registry.ofContentType?, ha.installed, hlink]
    exact hjoins.isSome_ofContentType? hs.sound
  rcases saveValidated_draft hreach.sound (hid.trans hnone) hct with
    ⟨vs, s₁, hsave, ha₁, hno⟩ | ⟨r', s₁, hsave, hv, hlink', hgains⟩
  · left
    refine ⟨vs, s₁, hsave, ha.trans ha₁, fun j l hj => ?_⟩
    obtain ⟨r₂, s₂, hok, -, rfl⟩ := draft_of_joins hj
    rw [hdraft] at hok
    cases hok
    rwa [← ha.validates_iff, ← hlink]
  · right
    have hlinks : r'.link = r.link := hlink'.trans hlink
    refine ⟨i, r', s₁, hsave, hlinks ▸ hjoins, ?_, hgains.of_agrees_left ha⟩
    rwa [hlink', ha.validates_iff] at *

end Store

namespace Site

/-- The sites differ at most in what their stores remember. -/
structure Agrees (s s' : Site) : Prop where
  store : s.store.Agrees s'.store
  hooks : s'.hooks = s.hooks
  finders : s'.finders = s.finders
  settings : s'.settings = s.settings

structure Gains (s s' : Site) (r : Relation) : Prop where
  store : s.store.Gains s'.store r
  hooks : s'.hooks = s.hooks
  finders : s'.finders = s.finders
  settings : s'.settings = s.settings

variable {s s' s'' : Site} {policy : AssignPolicy} {item group : Entity} {plugin : String}
  {k : EntityKey} {i : Installation} {known : List Relation}

theorem Agrees.refl (s : Site) : s.Agrees s := ⟨.refl s.store, rfl, rfl, rfl⟩

theorem Agrees.symm (h : s.Agrees s') : s'.Agrees s :=
  ⟨h.store.symm, h.hooks.symm, h.finders.symm, h.settings.symm⟩

theorem Agrees.trans (h : s.Agrees s') (h' : s'.Agrees s'') : s.Agrees s'' :=
  ⟨h.store.trans h'.store, h'.hooks.trans h.hooks, h'.finders.trans h.finders,
    h'.settings.trans h.settings⟩

theorem agrees_store {t : Store} (h : s.store.Agrees t) : s.Agrees { s with store := t } :=
  ⟨h, rfl, rfl, rfl⟩

theorem Gains.of_agrees_left (ha : s.Agrees s') {r : Relation} (h : s'.Gains s'' r) :
    s.Gains s'' r :=
  ⟨h.store.of_agrees_left ha.store, h.hooks.trans ha.hooks, h.finders.trans ha.finders,
    h.settings.trans ha.settings⟩

theorem attachItem_of_draft {r : Relation} {t : Store}
    (h : s.store.draft item group plugin = (.ok r, t)) :
    s.attachItem item plugin group =
      match t.saveValidated { r with owner := item.owner } with
      | (.error f, t) => (.error f, { s with store := t })
      | (.ok (.saved r), t) => (.ok (some r), { s with store := t })
      | (.ok (.refused _), t) => (.ok none, { s with store := t }) := by
  unfold attachItem onStore
  dsimp only
  rw [h]
  dsimp only
  rcases t.saveValidated { r with owner := item.owner } with ⟨f | r' | vs, t'⟩
  · rfl
  · rfl
  · rfl

theorem attachItem_of_no_draft {f : Failure} {t : Store}
    (h : s.store.draft item group plugin = (.error f, t)) :
    s.attachItem item plugin group = (.ok none, { s with store := t }) := by
  unfold attachItem onStore
  dsimp only
  rw [h]

/-- An item that cannot join the group, or for whose link there is no room, is passed over. Otherwise
its relation is saved. -/
theorem attachItem_cases (hs : s.store.Reachable) (item group : Entity) (plugin : String) :
    (∃ s₁, s.attachItem item plugin group = (.ok none, s₁) ∧ s.Agrees s₁ ∧
      ∀ i l, s.store.Joins item group plugin i l → ¬ s.store.Validates l) ∨
    ∃ i r s₁, s.attachItem item plugin group = (.ok (some r), s₁) ∧
      s.store.Joins item group plugin i r.link ∧ s.store.Validates r.link ∧ s.Gains s₁ r := by
  have ha := s.store.agrees_draft item group plugin
  rcases hdraft : s.store.draft item group plugin with ⟨f | r, t⟩
  · left
    rw [hdraft] at ha
    refine ⟨_, attachItem_of_no_draft hdraft, agrees_store ha, fun i l hjoins => ?_⟩
    exact absurd hjoins (Store.not_joins_of_draft hdraft)
  · have hsave := Store.saveValidated_joining hs hdraft { r with owner := item.owner } rfl rfl
    rw [attachItem_of_draft hdraft]
    rcases hsave with ⟨vs, t₁, hsave, ha₁, hno⟩ | ⟨i, r', t₁, hsave, hjoins, hv, hgains⟩
    · rw [hsave]
      exact .inl ⟨_, rfl, agrees_store ha₁, hno⟩
    · rw [hsave]
      exact .inr ⟨i, r', _, rfl, hjoins, hv, hgains, rfl, rfl, rfl⟩

theorem reachable_attachItem (hs : s.store.Reachable) (item group : Entity) (plugin : String) :
    (s.attachItem item plugin group).2.store.Reachable := by
  have hreach := hs.draft item group plugin
  rcases hdraft : s.store.draft item group plugin with ⟨f | r, t⟩
  · rw [attachItem_of_no_draft hdraft]
    rwa [hdraft] at hreach
  · rw [hdraft] at hreach
    have hsave := hreach.saveValidated { r with owner := item.owner }
    rw [attachItem_of_draft hdraft]
    rcases hx : t.saveValidated { r with owner := item.owner } with ⟨f | r' | vs, t'⟩
    · rwa [hx] at hsave
    · rwa [hx] at hsave
    · rwa [hx] at hsave

theorem Agrees.attachItem (h : s.Agrees s') (hs : s.store.Reachable) (hs' : s'.store.Reachable)
    (item group : Entity) (plugin : String) :
    (s'.attachItem item plugin group).1 = (s.attachItem item plugin group).1 ∧
      (s.attachItem item plugin group).2.Agrees (s'.attachItem item plugin group).2 := by
  have hanswer := h.store.draft_eq hs hs' item group plugin
  have hdrafted := (s.store.agrees_draft item group plugin).symm.trans
    (h.store.trans (s'.store.agrees_draft item group plugin))
  have hreach := hs.draft item group plugin
  have hreach' := hs'.draft item group plugin
  rcases hx : s.store.draft item group plugin with ⟨x, t⟩
  rcases hx' : s'.store.draft item group plugin with ⟨x', t'⟩
  rw [hx, hx'] at hanswer hdrafted
  rw [hx] at hreach
  rw [hx'] at hreach'
  obtain rfl : x' = x := hanswer
  cases x' with
  | error f =>
    rw [attachItem_of_no_draft hx, attachItem_of_no_draft hx']
    exact ⟨rfl, hdrafted, h.hooks, h.finders, h.settings⟩
  | ok r =>
    rw [attachItem_of_draft hx, attachItem_of_draft hx']
    obtain ⟨hsaving, hsaved⟩ :=
      hdrafted.saveValidated hreach hreach' { r with owner := item.owner }
    rcases hy : t.saveValidated { r with owner := item.owner } with ⟨y, u⟩
    rcases hy' : t'.saveValidated { r with owner := item.owner } with ⟨y', u'⟩
    rw [hy, hy'] at hsaving hsaved
    obtain rfl : y' = y := hsaving
    rcases y' with f | r' | vs
    · exact ⟨rfl, hsaved, h.hooks, h.finders, h.settings⟩
    · exact ⟨rfl, hsaved, h.hooks, h.finders, h.settings⟩
    · exact ⟨rfl, hsaved, h.hooks, h.finders, h.settings⟩

/-! ## One group -/

/-- The plugin is installed on the type of the group and, if that counts, tracks. -/
structure Offers (s : Site) (policy : AssignPolicy) (plugin : String) (group : Entity)
    (i : Installation) : Prop where
  installed : (s.store.registry.installedOn group.bundle).get? plugin = some i
  tracking : policy.automatic = true → i.tracking = true

theorem opening?_eq_some_iff : s.opening? policy plugin known group = some i ↔
    s.Offers policy plugin group i ∧ ∃ g, group.serial? = some g ∧
      ¬ (i.isGroupLimitReached known g = true ∨ i.isEntityLimitReached plugin known g = true) := by
  unfold opening?
  constructor
  · intro h
    obtain ⟨j, hj, h⟩ := Option.bind_eq_some_iff.mp h
    split at h
    · cases h
    · next htracking =>
      obtain ⟨g, hg, h⟩ := Option.bind_eq_some_iff.mp h
      split at h
      · cases h
      · next hfree =>
        cases h
        exact ⟨⟨hj, by simpa using htracking⟩, g, hg, hfree⟩
  · rintro ⟨⟨hi, htracking⟩, g, hg, hfree⟩
    rw [hi, hg]
    dsimp only [Option.bind_eq_bind, Option.bind_some]
    rw [if_neg fun hu => hu.2 (htracking hu.1), if_neg hfree]

/-- A group that the item can join is open if the plugin counts as installed and there is room. -/
theorem isSome_opening?_iff {l : Link} (hj : s.store.Joins item group plugin i l) :
    (s.opening? policy plugin (s.store.relations.rowsTo l.key) group).isSome = true ↔
      (policy.automatic = true → i.tracking = true) ∧ i.Admits s.store.relations l := by
  obtain ⟨hgroupKey, hkey, hinstalled, haccepts, hct, hplugin⟩ := hj
  obtain ⟨hsaved, hid, -⟩ := Entity.key?_eq_some_iff.mp hgroupKey
  have hserial := Entity.serial?_eq_some_iff.mpr ⟨hsaved, hid⟩
  rw [Option.isSome_iff_exists, Installation.admits_iff_not_reached hct, hplugin]
  constructor
  · rintro ⟨j, hj⟩
    obtain ⟨ho, g, hg, hfree⟩ := opening?_eq_some_iff.mp hj
    obtain rfl : j = i := Option.some.inj (ho.installed.symm.trans hinstalled)
    obtain rfl : g = l.group := Option.some.inj (hg.symm.trans hserial)
    exact ⟨ho.tracking, hfree⟩
  · rintro ⟨htracking, hfree⟩
    exact ⟨i, opening?_eq_some_iff.mpr ⟨⟨hinstalled, htracking⟩, _, hserial, hfree⟩⟩

theorem Agrees.opening?_eq (h : s.Agrees s') (policy : AssignPolicy) (plugin : String)
    (known : List Relation) (group : Entity) :
    s'.opening? policy plugin known group = s.opening? policy plugin known group := by
  unfold opening? Registry.installedOn
  rw [h.store.installed]

/-- The question whether hooks allow the addition, if they are asked. -/
def asked (s : Site) (policy : AssignPolicy) (item group : Entity) : Bool × Site :=
  if policy.askHooks then s.shouldAttach item group else (true, s)

theorem store_asked (s : Site) (policy : AssignPolicy) (item group : Entity) :
    (s.asked policy item group).2.store = s.store := by
  unfold asked
  split
  · rfl
  · rfl

/-- What becomes of a group for which the hooks were asked. -/
def attachIfOpen (s : Site) (policy : AssignPolicy) (item : Entity) (plugin : String)
    (known : List Relation) (group : Entity) : Outcome Site (Option Relation) :=
  match s.opening? policy plugin known group with
  | none => (.ok none, s)
  | some _ => s.attachItem item plugin group

theorem assignToGroup_eq (s : Site) (policy : AssignPolicy) (item : Entity) (plugin : String)
    (known : List Relation) (group : Entity) :
    s.assignToGroup policy item plugin known group =
      if ¬ (s.asked policy item group).1 then (.ok none, (s.asked policy item group).2)
      else (s.asked policy item group).2.attachIfOpen policy item plugin known group :=
  rfl

theorem Agrees.isEligible_eq (h : s.Agrees s') (policy : AssignPolicy) (item : Entity) :
    s'.isEligible policy item = s.isEligible policy item := by
  unfold isEligible
  rw [h.store.installed, h.settings]

theorem exists_key_of_isEligible (h : s.isEligible policy item = true) :
    ∃ k, item.key? = some k := by
  unfold isEligible at h
  rw [Bool.and_eq_true] at h
  exact Option.isSome_iff_exists.mp h.2

end Site

/-! ## A gallery -/

namespace Gallery

/-- A stored image. -/
def picture : Entity :=
  { Entity.create default EntityTypeId.media "image" with id := some (.int 1), saved := true }

/-- A stored article that refers to the image. -/
def article : Entity :=
  let e := { Entity.create default EntityTypeId.node "article" with id := some (.int 1), saved := true }
  e.setField (.referenceTo "picture" EntityTypeId.media)
    [.reference ⟨EntityTypeId.media, .int 1⟩ none]

def club (n : Int64) : Entity :=
  { Entity.group default "club" "Club" with id := some (.int n), saved := true }

def articles : String := EnablerDefinition.derivedId PluginId.nodeBase "article"

def catalog : Catalog :=
  ((Catalog.ofBundles .empty).register (.media "image" "Image")).register
    (.node "article" "Article")

/-- Clubs take articles and images; an image may be in so many clubs. -/
def registry (groupLimit : Nat) : Registry :=
  let r := (Registry.ofCatalog catalog).registerGroupType { id := "club", label := "Club" }
  let r := (r.install "club" (PluginId.media "image") (some { groupLimit, tracking := true })).2
  (r.install "club" articles none).2

def types : TypeTable :=
  ((TypeTable.empty.register (.content EntityTypeId.group "Group")).register
    (.content EntityTypeId.media "Media")).register (.content EntityTypeId.node "Content")

/-- Two clubs, the image and the article. -/
def furnished (groupLimit : Nat) : Store :=
  let s := Store.create .empty (.ofBundles .empty) ⟨0, 0⟩
  let s := ({ s with types, registry := registry groupLimit }.saveEntity (club 1)).2
  (((s.saveEntity (club 2)).2.saveEntity picture).2.saveEntity article).2

/-- The same after the article was added to the first club. -/
def store (groupLimit : Nat) : Store :=
  match (furnished groupLimit).draft article (club 1) articles with
  | (.ok r, s) => (s.save r).2
  | (.error _, s) => s

/-- The store with tracking of media, the standard finders and no hooks. -/
def site (groupLimit : Nat) : Site :=
  { store := store groupLimit, hooks := {}, finders := .standard, settings := { tracking := true } }

theorem media_ne_articles (bundle : String) : PluginId.media bundle ≠ articles := by
  intro h
  have hchar := congrArg (fun p => p.toList[6]?) h
  unfold PluginId.media EnablerDefinition.derivedId at hchar
  rw [String.toList_append, String.toList_append, List.append_assoc,
    List.getElem?_append_left (by decide)] at hchar
  revert hchar
  decide

theorem reachable_furnished (groupLimit : Nat) : (furnished groupLimit).Reachable := by
  apply Store.Reachable.saveEntity
  apply Store.Reachable.saveEntity
  apply Store.Reachable.saveEntity
  apply Store.Reachable.saveEntity
  have h := Store.Reachable.create .empty ⟨0, 0⟩
  have h := h.step (.registerType _ (.content EntityTypeId.group "Group"))
  have h := h.step (.registerType _ (.content EntityTypeId.media "Media"))
  have h := h.step (.registerType _ (.content EntityTypeId.node "Content"))
  have h := h.step (.registry (.catalog (.register _ (.media "image" "Image"))))
  have h := h.step (.registry (.catalog (.register _ (.node "article" "Article"))))
  have h := h.step (.registry (.registerGroupType _ { id := "club", label := "Club" }))
  have h := h.step (.registry (.install _ "club" (PluginId.media "image")
    (some { groupLimit, tracking := true })))
  exact h.step (.registry (.install _ "club" articles none))

theorem reachable_store (groupLimit : Nat) : (store groupLimit).Reachable := by
  have h := (reachable_furnished groupLimit).draft article (club 1) articles
  unfold store
  split
  · next hr =>
    rw [hr] at h
    exact h.save _
  · next hr => rwa [hr] at h

end Gallery

end Grouping
