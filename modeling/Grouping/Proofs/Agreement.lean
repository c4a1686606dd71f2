import Grouping.Proofs.Reachability

/-! # Stores that agree answer alike

Stores that agree may remember different columns. What is remembered is right in every reachable
store, so neither drafts nor saves depend on it: both stores give the same answer and agree afterwards.
-/

namespace Grouping

namespace ColumnMemo

/-- The memo is not ahead of the table; if it is as new as the table, its columns are right. -/
structure Faithful (m : ColumnMemo) (types : TypeTable) : Prop where
  generation_le : m.generation ≤ types.generation
  columns : m.generation = types.generation →
    m.columns.All fun type c => ∃ d, types.get? type = some d ∧ d.column = c

variable {m : ColumnMemo} {types : TypeTable}

theorem faithful_empty : empty.Faithful .empty := ⟨Nat.le_refl 0, fun _ => OrderedMap.all_empty⟩

theorem Faithful.current (h : m.Faithful types) :
    (m.current types).All fun type c => ∃ d, types.get? type = some d ∧ d.column = c := by
  unfold ColumnMemo.current
  split
  · next hg => exact h.columns hg
  · exact OrderedMap.all_empty

theorem Faithful.clear (h : m.Faithful types) : m.clear.Faithful types :=
  ⟨h.generation_le, fun _ => OrderedMap.all_empty⟩

/-- A registration moves the table on, so that nothing remembered counts any more. -/
theorem Faithful.register (h : m.Faithful types) (t : EntityType) :
    m.Faithful (types.register t) := by
  have hgen : (types.register t).generation = types.generation + 1 := rfl
  have hle := h.generation_le
  constructor
  · omega
  · intro heq
    omega

theorem Faithful.resolve (h : m.Faithful types) (type : String) :
    (m.resolve types type).2.Faithful types := by
  unfold ColumnMemo.resolve
  split
  · exact h
  · split
    · exact h
    · next d hd => exact ⟨Nat.le_refl _, fun _ => h.current.insert ⟨d, hd, rfl⟩⟩

theorem Faithful.resolve_eq (h : m.Faithful types) (type : String) :
    (m.resolve types type).1 = types.columnFor type := by
  unfold ColumnMemo.resolve TypeTable.columnFor
  split
  · next c hc =>
    obtain ⟨d, hd, rfl⟩ := h.current type c hc
    rw [hd]
  · cases types.get? type with
    | none => rfl
    | some d => rfl

end ColumnMemo

namespace Store

variable {s s' : Store}

theorem Reachable.faithful (h : s.Reachable) : s.columns.Faithful s.types := by
  induction h with
  | create bundles now => exact ColumnMemo.faithful_empty
  | step _ hstep ih =>
    cases hstep with
    | registerType t => exact ih.register t
    | resolveColumn type => exact ih.resolve type
    | clearColumns => exact ih.clear
    | registry _ => exact ih
    | saveEntity _ => exact ih
    | deleteEntity k => exact ih
    | insertRow r => exact ih
    | updateRow _ => exact ih
    | deleteRow id => exact ih
    | setTags tags => exact ih
    | setClock now => exact ih

theorem Reachable.columnFor_eq (h : s.Reachable) (type : String) :
    (s.columnFor type).1 = s.types.columnFor type :=
  h.faithful.resolve_eq type

theorem Agrees.columnFor_eq (h : s.Agrees s') (hs : s.Reachable) (hs' : s'.Reachable)
    (type : String) : (s'.columnFor type).1 = (s.columnFor type).1 := by
  rw [hs'.columnFor_eq, hs.columnFor_eq, h.types]

/-! ## Drafts -/

theorem draft_eq (s : Store) (entity group : Entity) (plugin : String) :
    (s.draft entity group plugin).1 =
      (groupId group "Cannot add an entity to an unsaved group.").bind fun g =>
        (s.resolveTarget entity group.bundle plugin).1.map fun x =>
          .draft s.draftUuid s.now g group.bundle x.2.contentType plugin
            ⟨((s.resolveTarget entity group.bundle plugin).2.columnFor entity.type).1,
              ⟨entity.type, x.1⟩⟩ := by
  have ha := s.agrees_resolveTarget entity group.bundle plugin
  unfold draft
  cases groupId group "Cannot add an entity to an unsaved group." with
  | error f => rfl
  | ok g =>
    dsimp only [Except.bind]
    rcases hr : s.resolveTarget entity group.bundle plugin with ⟨f | ⟨id, i⟩, s₁⟩
    · rfl
    · rw [hr] at ha
      have huuid : s₁.draftUuid = s.draftUuid := by
        unfold draftUuid
        rw [ha.relations]
      change Except.ok _ = Except.ok _
      rw [← huuid, ← ha.now]
      rfl

theorem Agrees.draft_eq (h : s.Agrees s') (hs : s.Reachable) (hs' : s'.Reachable)
    (entity group : Entity) (plugin : String) :
    (s'.draft entity group plugin).1 = (s.draft entity group plugin).1 := by
  have hr := s.agrees_resolveTarget entity group.bundle plugin
  have hr' := s'.agrees_resolveTarget entity group.bundle plugin
  have hcolumn := (hr.symm.trans (h.trans hr')).columnFor_eq (hs.resolveTarget entity _ plugin)
    (hs'.resolveTarget entity _ plugin) entity.type
  have huuid : s'.draftUuid = s.draftUuid := by
    unfold draftUuid
    rw [h.relations]
  rw [Store.draft_eq, Store.draft_eq, hcolumn, huuid, h.now, s.resolveTarget_congr s' h.installed]

/-! ## Validation -/

theorem Agrees.violations_eq (h : s.Agrees s') (hs : s.Reachable) (hs' : s'.Reachable)
    (r : Relation) : (s'.violations r).1 = (s.violations r).1 := by
  have hw : s.warm.Agrees s'.warm := s.agrees_warm.symm.trans (h.trans s'.agrees_warm)
  have hinst : s'.warm.registry.ofContentType? r.contentType =
      s.warm.registry.ofContentType? r.contentType := by
    unfold Registry.ofContentType?
    rw [hw.installed]
  have hgroup : s'.warm.loadGroup r = s.warm.loadGroup r := by
    unfold loadGroup
    rw [hw.entities]
  have htarget : s'.warm.loadTarget r = s.warm.loadTarget r := by
    unfold loadTarget
    rw [hw.entities]
  unfold violations
  dsimp only
  rw [hinst, hgroup, htarget]
  split
  · next i group target _ _ _ =>
    split
    · rfl
    · have hcolumn := hw.columnFor_eq hs.warm hs'.warm i.enabler.entityType
      have hcheck : ∀ label, (s'.warm.columnFor i.enabler.entityType).2.checkGroup i r label target
          group = (s.warm.columnFor i.enabler.entityType).2.checkGroup i r label target group := by
        intro label
        unfold checkGroup sameGroup byTargetId
        rw [(agrees_columnFor _ _).relations, (agrees_columnFor _ _).relations, hw.relations]
      have hchecks : ∀ label, (s'.warm.columnFor i.enabler.entityType).2.checkGroups i r label
          target = (s.warm.columnFor i.enabler.entityType).2.checkGroups i r label target := by
        intro label
        unfold checkGroups otherGroups
        rw [(agrees_columnFor _ _).relations, (agrees_columnFor _ _).relations, hw.relations]
      rw [hcolumn, hcheck, hchecks]
  · rfl

/-! ## Saves -/

theorem Agrees.report (h : s.Agrees s') (t : RelationTable) (r : Relation) :
    (Store.report { s with relations := t } r).Agrees
      (Store.report { s' with relations := t } r) where
  types := h.types
  entities := h.entities
  relations := rfl
  staleTags := congrArg (· ++ CacheTag.stale r) h.staleTags
  now := h.now
  groupTypes := h.groupTypes
  configured := h.configured
  installed := h.installed

theorem Agrees.rewrite (h : s.Agrees s') (id : Int) (r : Relation) :
    (s'.rewrite id r).1 = (s.rewrite id r).1 ∧ (s.rewrite id r).2.Agrees (s'.rewrite id r).2 := by
  unfold Store.rewrite
  rw [h.relations]
  cases s.relations.get? id with
  | none => exact ⟨rfl, h⟩
  | some old =>
    dsimp only
    split
    · exact ⟨rfl, h⟩
    · cases s.relations.update { r with created := old.created } with
      | error f => exact ⟨rfl, h⟩
      | ok p => exact ⟨rfl, h.report p.2 p.1⟩

theorem Agrees.add (h : s.Agrees s') (r : Relation) :
    (s'.add r).1 = (s.add r).1 ∧ (s.add r).2.Agrees (s'.add r).2 := by
  have hnow : { r with created := s'.now } = { r with created := s.now } := by rw [h.now]
  unfold Store.add
  rw [h.relations, hnow]
  exact ⟨rfl, h.report (s.relations.insert { r with created := s.now }).2 _⟩

theorem Agrees.save (h : s.Agrees s') (r : Relation) :
    (s'.save r).1 = (s.save r).1 ∧ (s.save r).2.Agrees (s'.save r).2 := by
  have hw : s.warm.Agrees s'.warm := s.agrees_warm.symm.trans (h.trans s'.agrees_warm)
  have hinst : s'.registry.ofContentType? r.contentType =
      s.registry.ofContentType? r.contentType := by
    unfold Registry.ofContentType?
    rw [h.installed]
  cases hi : s.registry.ofContentType? r.contentType with
  | none =>
    unfold Store.save
    rw [installationOf_eq, installationOf_eq, hinst, hi]
    exact ⟨rfl, hw⟩
  | some i =>
    have hstamped : s'.stamped i r = s.stamped i r := by
      unfold stamped labelFor loadTarget
      rw [h.entities, h.now]
    rw [save_of_installation hi, save_of_installation (hinst.trans hi), hstamped]
    cases (s.stamped i r).id with
    | some id => exact hw.rewrite id _
    | none =>
      obtain ⟨hrow, hadd⟩ := hw.add (s.stamped i r)
      exact ⟨congrArg Except.ok hrow, hadd⟩

theorem Agrees.saveValidated (h : s.Agrees s') (hs : s.Reachable) (hs' : s'.Reachable)
    (r : Relation) : (s'.saveValidated r).1 = (s.saveValidated r).1 ∧
      (s.saveValidated r).2.Agrees (s'.saveValidated r).2 := by
  have hviolations := h.violations_eq hs hs' r
  have hv : (s.violations r).2.Agrees (s'.violations r).2 :=
    (s.agrees_violations r).symm.trans (h.trans (s'.agrees_violations r))
  unfold Store.saveValidated
  rcases hx : s.violations r with ⟨vs, s₁⟩
  rcases hx' : s'.violations r with ⟨vs', s₁'⟩
  rw [hx, hx'] at hviolations hv
  obtain rfl : vs' = vs := hviolations
  rcases vs' with f | _ | ⟨v, vs⟩
  · exact ⟨rfl, hv⟩
  · obtain ⟨hrow, hsave⟩ := hv.save r
    dsimp only
    rcases hy : s₁.save r with ⟨row, s₂⟩
    rcases hy' : s₁'.save r with ⟨row', s₂'⟩
    rw [hy, hy'] at hrow hsave
    obtain rfl : row' = row := hrow
    cases row' with
    | error f => exact ⟨rfl, hsave⟩
    | ok r' => exact ⟨rfl, hsave⟩
  · exact ⟨rfl, hv⟩

end Store

end Grouping
