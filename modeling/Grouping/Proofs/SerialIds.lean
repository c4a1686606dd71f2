import Grouping.Proofs.Reachability

/-! # Serial ids

The next serial id of a type is positive, and above all ids under which entities of the type were ever
stored, those that have been deleted included. This lasts until one is stored under the highest id, as
the count may wrap around then.
-/

namespace Grouping

namespace EntityStore

variable {x y : EntityStore} {xs past : List EntityStore} {types : TypeTable} {e e' : Entity}
  {type : String} {n : Int64} {k : EntityKey}

theorem nextId_setNextId (x : EntityStore) (type : String) (n : Int64) (t : String) :
    (x.setNextId type n).nextId t = if type = t then n else x.nextId t := by
  have hget : (x.setNextId type n).nextIds.get? t =
      if type = t then some n else x.nextIds.get? t := OrderedMap.get?_insert ..
  have hnext : (x.setNextId type n).nextId t =
      ((x.setNextId type n).nextIds.get? t).getD 1 := rfl
  rw [hnext, hget]
  split
  · rfl
  · rfl

theorem lt_add_one_of_ne (hn : n ≠ Int64.maxValue) : n < n + 1 := by
  grind

/-- A save leaves the counts of other types. It leaves that of its type if it stores under a name, moves it
to after the id that it assigns, and raises it to after an id that the entity brings. -/
theorem nextId_save (h : x.save types e = .ok (e', y)) : ∃ next,
    (∀ t, y.nextId t = if e.type = t then next else x.nextId t) ∧
    ((∃ name, e'.id = some (.name name)) ∧ next = x.nextId e.type ∨
      e'.id = some (.int (x.nextId e.type)) ∧ next = x.nextId e.type + 1 ∨
      ∃ n, e'.id = some (.int n) ∧
        next = if x.nextId e.type < n + 1 then n + 1 else x.nextId e.type) := by
  unfold save at h
  split at h
  · cases h
  · split at h
    · next n _ =>
      cases h
      exact ⟨_, nextId_setNextId x e.type _, .inr (.inr ⟨n, rfl, rfl⟩)⟩
    · next name _ =>
      cases h
      refine ⟨_, fun t => ?_, .inl ⟨⟨name, rfl⟩, rfl⟩⟩
      split
      · next ht => exact congrArg x.nextId ht.symm
      · rfl
    · cases h
      exact ⟨_, nextId_setNextId x e.type _, .inr (.inl ⟨rfl, rfl⟩)⟩
    · cases h

theorem isSome_load_save_iff (h : x.save types e = .ok (e', y)) :
    (y.load k).isSome ↔ e'.key? = some k ∨ (x.load k).isSome := by
  obtain ⟨id, -, rfl, hrows⟩ := save_eq_ok h
  have hkey : (⟨e.type, id⟩ : EntityKey) = k ↔
      ({ e with id := some id, saved := true } : Entity).key? = some k := by
    rw [← Option.some.injEq]
    rfl
  unfold load
  rw [hrows, OrderedMap.get?_insert, ← hkey]
  by_cases hk : (⟨e.type, id⟩ : EntityKey) = k
  · simp [hk]
  · simp [hk]

/-- A save moves the count on and past the id under which it stores, unless this is the highest. -/
theorem counts_save (h : x.save types e = .ok (e', y))
    (hmax : e'.key? ≠ some ⟨type, .int Int64.maxValue⟩) :
    x.nextId type ≤ y.nextId type ∧
      ∀ n, e'.key? = some ⟨type, .int n⟩ → n < y.nextId type := by
  obtain ⟨id, -, he', -⟩ := save_eq_ok h
  have hkey : e'.key? = some ⟨e.type, id⟩ :=
    Entity.key?_eq_some_iff.mpr (he' ▸ ⟨rfl, rfl, rfl⟩)
  have hid : e'.id = some id := by rw [he']
  obtain ⟨next, hnext, hcases⟩ := nextId_save h
  rw [hkey] at hmax ⊢
  rw [hid] at hcases
  rw [hnext]
  split
  · next ht =>
    subst ht
    rcases hcases with ⟨⟨name, ⟨⟩⟩, rfl⟩ | ⟨⟨⟩, rfl⟩ | ⟨n, ⟨⟩, rfl⟩
    · exact ⟨Int64.le_refl _, nofun⟩
    · have hlt : x.nextId e.type < x.nextId e.type + 1 :=
        lt_add_one_of_ne fun hn => hmax (by rw [hn])
      refine ⟨Int64.le_of_lt hlt, ?_⟩
      rintro m ⟨⟩
      exact hlt
    · have hlt : n < n + 1 := lt_add_one_of_ne fun hn => hmax (by rw [hn])
      split
      · next hraised =>
        refine ⟨Int64.le_of_lt hraised, ?_⟩
        rintro m ⟨⟩
        exact hlt
      · next hle =>
        refine ⟨Int64.le_refl _, ?_⟩
        rintro m ⟨⟩
        exact Int64.lt_of_lt_of_le hlt (Int64.not_lt.mp hle)
  · next ht =>
    refine ⟨Int64.le_refl _, ?_⟩
    rintro n ⟨⟩
    exact absurd rfl ht

theorem save_of_no_id (h : x.save types e = .ok (e', y)) (hid : e.id = none) :
    e' = { e with id := some (.int (x.nextId e.type)), saved := true } ∧
      y.rows = x.rows.insert ⟨e.type, .int (x.nextId e.type)⟩ e' := by
  obtain ⟨id, hserial, he', hrows⟩ := save_eq_ok h
  obtain rfl : id = .int (x.nextId e.type) := by
    rcases hserial with hsome | ⟨-, hserial⟩
    · rw [hid] at hsome
      cases hsome
    · exact hserial
  exact ⟨he', hrows⟩

/-- The row of what is saved without an id comes last if nothing has the next id. -/
theorem entries_save (h : x.save types e = .ok (e', y)) (hid : e.id = none)
    (hfree : x.load ⟨e.type, .int (x.nextId e.type)⟩ = none) :
    y.rows.entries = x.rows.entries ++ [(⟨e.type, .int (x.nextId e.type)⟩, e')] := by
  rw [(save_of_no_id h hid).2,
    OrderedMap.entries_insert_of_not_mem (OrderedMap.get?_eq_none_iff.mp hfree)]

/-! ## Histories -/

/-- A change of what is stored, or none. -/
inductive Step : EntityStore → EntityStore → Prop
  | stay (x : EntityStore) : Step x x
  | save {x y : EntityStore} {types : TypeTable} {e e' : Entity} :
      x.save types e = .ok (e', y) → Step x y
  | delete (x : EntityStore) (k : EntityKey) : Step x (x.delete k)

/-- The store results from steps through the stores of the past, the last of which comes first. -/
inductive History : EntityStore → List EntityStore → Prop
  | empty : History .empty []
  | step {x y : EntityStore} {past : List EntityStore} :
      History x past → Step x y → History y (x :: past)

/-- Something is stored under the key in one of the stores. -/
def Had (xs : List EntityStore) (k : EntityKey) : Prop := ∃ x ∈ xs, (x.load k).isSome

instance (xs : List EntityStore) (k : EntityKey) : Decidable (Had xs k) :=
  inferInstanceAs (Decidable (∃ x ∈ xs, (x.load k).isSome))

theorem had_cons_iff : Had (x :: xs) k ↔ (x.load k).isSome ∨ Had xs k := by
  simp [Had]

theorem Step.keyed (h : Step x y) (hx : x.Keyed) : y.Keyed := by
  cases h with
  | stay => exact hx
  | save hsave => exact hx.save hsave
  | delete k => exact hx.delete k

theorem Step.counts (h : Step x y) (hmax : ¬ (y.load ⟨type, .int Int64.maxValue⟩).isSome) :
    x.nextId type ≤ y.nextId type ∧ ∀ n, (y.load ⟨type, .int n⟩).isSome →
      (x.load ⟨type, .int n⟩).isSome ∨ n < y.nextId type := by
  cases h with
  | stay => exact ⟨Int64.le_refl _, fun _ => .inl⟩
  | save hsave =>
    simp only [isSome_load_save_iff hsave, not_or] at hmax ⊢
    obtain ⟨hle, hlt⟩ := counts_save hsave hmax.1
    exact ⟨hle, fun n hload => hload.symm.imp_right (hlt n)⟩
  | delete k =>
    refine ⟨Int64.le_refl _, fun n hload => .inl ?_⟩
    rw [load_delete] at hload
    split at hload
    · cases hload
    · exact hload

theorem History.keyed (h : History x past) : x.Keyed := by
  induction h with
  | empty => exact keyed_empty
  | step _ hstep ih => exact hstep.keyed ih

/-- The next id is positive and above the ids that were ever used, if these do not include the highest. -/
theorem History.counts (h : History x past)
    (hmax : ¬ Had (x :: past) ⟨type, .int Int64.maxValue⟩) :
    1 ≤ x.nextId type ∧ ∀ n, Had (x :: past) ⟨type, .int n⟩ → n < x.nextId type := by
  induction h with
  | empty =>
    refine ⟨Int64.le_refl 1, fun n hhad => ?_⟩
    obtain ⟨y, hy, hload⟩ := hhad
    cases List.mem_singleton.mp hy
    cases hload
  | step _ hstep ih =>
    rw [had_cons_iff, not_or] at hmax
    obtain ⟨hone, hlt⟩ := ih hmax.2
    obtain ⟨hle, hin⟩ := hstep.counts hmax.1
    refine ⟨Int64.le_trans hone hle, fun n hhad => ?_⟩
    have hold := fun h => Int64.lt_of_lt_of_le (hlt n h) hle
    rcases had_cons_iff.mp hhad with hload | hhad
    · exact (hin n hload).elim (fun h => hold (had_cons_iff.mpr (.inl h))) id
    · exact hold hhad

/-- Nothing was ever stored under the next id. -/
theorem History.not_had_nextId (h : History x past)
    (hmax : ¬ Had (x :: past) ⟨type, .int Int64.maxValue⟩) :
    ¬ Had (x :: past) ⟨type, .int (x.nextId type)⟩ :=
  fun hhad => Int64.lt_irrefl ((h.counts hmax).2 _ hhad)

end EntityStore

namespace Store

/-- The store results from steps through the stores of the past, the last of which comes first. -/
inductive History : Store → List Store → Prop
  | create (bundles : Bundles) (now : Instant) :
      History (create .empty (.ofBundles bundles) now) []
  | step {s s' : Store} {past : List Store} : History s past → Step s s' → History s' (s :: past)

/-- There is an entity under the key in one of the stores. -/
def Had (ss : List Store) (k : EntityKey) : Prop := EntityStore.Had (ss.map Store.entities) k

instance (ss : List Store) (k : EntityKey) : Decidable (Had ss k) :=
  inferInstanceAs (Decidable (EntityStore.Had _ k))

variable {s s' : Store} {past : List Store} {type : String}

theorem reachable_iff_exists_history : s.Reachable ↔ ∃ past, s.History past := by
  constructor
  · intro h
    induction h with
    | create bundles now => exact ⟨[], .create bundles now⟩
    | step _ hstep ih =>
      obtain ⟨past, hpast⟩ := ih
      exact ⟨_, hpast.step hstep⟩
  · rintro ⟨past, h⟩
    induction h with
    | create bundles now => exact .create bundles now
    | step _ hstep ih => exact ih.step hstep

theorem Step.entities (h : Step s s') : s.entities.Step s'.entities := by
  cases h with
  | saveEntity hsave => exact .save hsave
  | deleteEntity k => exact .delete _ k
  | _ => exact .stay _

theorem History.entities (h : s.History past) :
    s.entities.History (past.map Store.entities) := by
  induction h with
  | create bundles now => exact .empty
  | step _ hstep ih => exact ih.step hstep.entities

theorem History.one_le_nextId (h : s.History past)
    (hmax : ¬ Had (s :: past) ⟨type, .int Int64.maxValue⟩) : 1 ≤ s.entities.nextId type :=
  (h.entities.counts hmax).1

theorem had_cons_of_entities_eq {k : EntityKey} (h : s'.entities = s.entities) :
    Had (s' :: s :: past) k ↔ Had (s :: past) k := by
  unfold Had
  rw [List.map_cons, h, EntityStore.had_cons_iff, or_iff_right_of_imp]
  exact fun hload => EntityStore.had_cons_iff.mpr (.inl hload)

/-- To save a relation takes steps that leave the entities as they are. -/
theorem History.save (hs : s.History past) (r : Relation) : ∃ past', (s.save r).2.History past' ∧
    ∀ k, Had ((s.save r).2 :: past') k ↔ Had (s :: past) k := by
  have hwarm := hs.step (.registry (.warm _))
  rcases s.save_cases r with ⟨f, hsave⟩ | ⟨r', t, hw, hsave⟩
  · rw [hsave]
    exact ⟨_, hwarm, fun k => had_cons_of_entities_eq rfl⟩
  · rw [hsave]
    have hwrite : Step s.warm { s.warm with relations := t } := by
      cases hw with
      | add i => exact .insertRow s.warm _
      | rewrite i id old hid hold =>
        have hu : s.warm.relations.update (s.rewritten i r old) = .ok _ :=
          RelationTable.update_eq_ok_iff.mpr ⟨rfl, id, old, hid, hold, rfl⟩
        exact .updateRow hu
    refine ⟨_, (hwarm.step hwrite).step (.setTags _ _), fun k => ?_⟩
    calc Had (_ :: _ :: s.warm :: s :: past) k
        ↔ Had (_ :: s.warm :: s :: past) k := had_cons_of_entities_eq rfl
      _ ↔ Had (s.warm :: s :: past) k := had_cons_of_entities_eq rfl
      _ ↔ Had (s :: past) k := had_cons_of_entities_eq rfl

theorem exists_history_club : ∃ past, club.History past ∧
    Had (club :: past) ⟨EntityTypeId.group, .int 1⟩ ∧
    ∀ type ∈ [EntityTypeId.group, EntityTypeId.user],
      ¬ Had (club :: past) ⟨type, .int Int64.maxValue⟩ := by
  have h := History.create .empty ⟨0, 0⟩
  have h := h.step (.registerType _ (.content EntityTypeId.group "Group"))
  have h := h.step (.registerType _ (.content EntityTypeId.user "User"))
  have h := h.step (.registry (.catalog (.register _ .membership)))
  have h := h.step (.registry (.registerGroupType _ { id := "club", label := "Club" }))
  have h := h.step (.registry
    (.updateConfiguration _ "club" PluginId.membership { groupLimit := 1 }))
  have h := h.step (.saveEntity (e := .group default "club" "Chess") rfl)
  have h := h.step (.saveEntity (e := .create default EntityTypeId.user EntityTypeId.user) rfl)
  exact ⟨_, h, by decide +kernel, by decide +kernel⟩

end Store

end Grouping
