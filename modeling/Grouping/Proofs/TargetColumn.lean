import Grouping.Proofs.Deletion
import Grouping.Proofs.Drafting
import Grouping.Proofs.NewGroup

/-! # Whether a target fits its column

The column for a target follows from the type of the entity as it is registered when the relation is
drafted, the id of the target from how the entity was saved. An id of the kind that the type has fits
the column, unless the ids of the type are serial and not a field: they are kept among the names.
-/

namespace Grouping

/-- The id is as the ids of entities are meant to be whose type has ids of this kind. -/
def IdKind.describes : IdKind → EntityId → Bool
  | .serial, .int n => 0 ≤ n.toInt
  | .name, .name s => s.toList.all (fun c => c.toNat < 128) && s.length ≤ ReferenceField.nameLength
  | _, _ => false

def EntityId.kind : EntityId → IdKind
  | int _ => .serial
  | name _ => .name

theorem IdKind.eq_kind {k : IdKind} {id : EntityId} (h : k.describes id = true) : k = id.kind := by
  cases id with
  | int n =>
    cases k with
    | serial => rfl
    | name => cases h
  | name s =>
    cases k with
    | serial => cases h
    | name => rfl

/-- The kind of ids that the column is for. -/
def TargetColumn.idKind : TargetColumn → IdKind
  | numeric => .serial
  | name => .name

/-- The column of the field can hold the id. -/
def ReferenceField.holds (f : ReferenceField) (id : EntityId) : Bool := f.schema.type.fits id

theorem ReferenceField.holds_base (c : TargetColumn) (id : EntityId) :
    (base c).holds id = c.idKind.describes id := by
  cases c <;> cases id <;> rfl

namespace EntityType

variable {t : EntityType} {id : EntityId}

theorem idKind_column_eq_iff :
    t.column.idKind = t.idKind ↔ (t.idKind = .serial → t.fieldable = true) := by
  unfold column hasSerialField
  cases t.idKind with
  | serial => cases t.fieldable <;> simp [TargetColumn.idKind]
  | name => simp [TargetColumn.idKind]

theorem holds_column_iff (h : t.idKind.describes id = true) :
    (ReferenceField.base t.column).holds id = true ↔
      (t.idKind = .serial → t.fieldable = true) := by
  rw [ReferenceField.holds_base, ← idKind_column_eq_iff]
  constructor
  · intro hholds
    exact (IdKind.eq_kind hholds).trans (IdKind.eq_kind h).symm
  · intro heq
    rwa [heq]

end EntityType

/-! ## Saved entities -/

namespace EntityStore

variable {x y : EntityStore} {types : TypeTable} {e e' : Entity}

theorem exists_type_of_save (h : x.save types e = .ok (e', y)) :
    ∃ d, types.get? e.type = some d := by
  unfold save TypeTable.require at h
  cases hd : types.get? e.type with
  | none =>
    rw [hd] at h
    cases h
  | some d => exact ⟨d, rfl⟩

end EntityStore

theorem TypeTable.isSome_get?_register {types : TypeTable} {type : String}
    (h : (types.get? type).isSome) (t : EntityType) : ((types.register t).get? type).isSome := by
  have hget : (types.register t).get? type = if t.id = type then some t else types.get? type :=
    OrderedMap.get?_insert ..
  rw [hget]
  split
  · rfl
  · exact h

namespace Store

variable {s s' t : Store} {past : List Store} {e saved group : Entity} {plugin type : String}
  {r : Relation}

theorem History.describes_nextId (h : s.History past)
    (hmax : ¬ Had (s :: past) ⟨type, .int Int64.maxValue⟩) :
    IdKind.serial.describes (.int (s.entities.nextId type)) = true := by
  have hone := Int64.le_iff_toInt_le.mp (h.one_le_nextId hmax)
  have hint : (1 : Int64).toInt = 1 := rfl
  rw [hint] at hone
  exact decide_eq_true (by omega)

/-- A registration can replace a type, but not remove it. -/
theorem Step.isSome_get?_types (h : Step s s') (hd : (s.types.get? type).isSome) :
    (s'.types.get? type).isSome := by
  cases h with
  | registerType t => exact TypeTable.isSome_get?_register hd t
  | _ => exact hd

theorem isSome_get?_types_of_steps (h : Relation.ReflTransGen Step s s')
    (hd : (s.types.get? type).isSome) : (s'.types.get? type).isSome := by
  induction h with
  | refl => exact hd
  | tail _ hstep ih => exact hstep.isSome_get?_types ih

/-- What is drafted for an entity that was saved at some time before: its target has the id of the
entity. If this id is of the kind that the type has by now, it fits the column of the target exactly if
serial ids of the type are a field. Ids that are assigned are no negative numbers, as long as nothing of
the type was stored under the highest id. -/
theorem holds_target_iff (hs : s.History past) (hsave : s.saveEntity e = (.ok saved, s'))
    (hsteps : Relation.ReflTransGen Step s' t) (hdraft : (t.draft saved group plugin).1 = .ok r) :
    saved.id = some r.key.id ∧
      (e.id = none → ¬ Had (s :: past) ⟨e.type, .int Int64.maxValue⟩ →
        IdKind.serial.describes r.key.id = true) ∧
      ∃ d, t.types.get? saved.type = some d ∧
        (d.idKind.describes r.key.id = true →
          ((ReferenceField.base r.target.column).holds r.key.id = true ↔
            (d.idKind = .serial → d.fieldable = true))) := by
  have hreach : t.Reachable := by
    have hs' := (reachable_iff_exists_history.mpr ⟨past, hs⟩).saveEntity e
    rw [hsave] at hs'
    exact hs'.of_steps hsteps
  obtain ⟨entities, hstored, rfl⟩ := saveEntity_eq_ok_iff.mp hsave
  obtain ⟨id, hid, rfl, -⟩ := EntityStore.save_eq_ok hstored
  obtain ⟨i, hdrafts⟩ := drafts_of_draft (Prod.ext hdraft rfl)
  obtain ⟨-, hkey, -⟩ := Entity.key?_eq_some_iff.mp hdrafts.key?
  -- the type may have been replaced meanwhile, and the draft goes by what it is now
  obtain ⟨d, hd⟩ := Option.isSome_iff_exists.mp <|
    isSome_get?_types_of_steps hsteps <|
      Option.isSome_iff_exists.mpr (EntityStore.exists_type_of_save hstored)
  have hcolumn : r.target.column = d.column := by
    rw [column_of_draft hdraft, hreach.columnFor_eq, TypeTable.columnFor]
    dsimp only
    rw [hd]
  refine ⟨hkey, fun hnone hmax => ?_, d, hd, fun hdescribes => ?_⟩
  · rcases hid with hsome | ⟨-, hid⟩
    · rw [hnone] at hsome
      cases hsome
    · obtain rfl : id = r.key.id := Option.some.inj hkey
      rw [hid]
      exact hs.describes_nextId hmax
  · rw [hcolumn]
    exact EntityType.holds_column_iff hdescribes

def newcomer : Entity := .create default EntityTypeId.user EntityTypeId.user

/-- The user that is saved second gets the id 2, and a membership of it keeps this id as a number. -/
theorem holds_target_newcomer : ∃ saved s' r, club.saveEntity newcomer = (.ok saved, s') ∧
    (s'.draft saved chess PluginId.membership).1 = .ok r ∧ saved.id = some (.int 2) ∧
    r.key.id = .int 2 ∧ (ReferenceField.base r.target.column).holds r.key.id = true := by
  obtain ⟨r, hdraft⟩ := exists_draft_iff_obstacle?.mpr <| show
    (club.saveEntity newcomer).2.obstacle?
      { newcomer with id := some (.int 2), saved := true } chess PluginId.membership = none by
    decide +kernel
  have hsave : club.saveEntity newcomer =
      (.ok { newcomer with id := some (.int 2), saved := true }, (club.saveEntity newcomer).2) :=
    Prod.ext (by decide +kernel) rfl
  obtain ⟨past, hclub, -, hmax⟩ := exists_history_club
  obtain ⟨hid, hassigned, d, hd, hiff⟩ := holds_target_iff hclub hsave .refl hdraft
  obtain rfl : .content EntityTypeId.user "User" = d := Option.some.inj hd
  exact ⟨_, _, r, hsave, hdraft, rfl, (Option.some.inj hid).symm,
    (hiff (hassigned rfl (hmax _ (by decide)))).mpr fun _ => rfl⟩

/-! ## Targets beside their column -/

/-- A relation is drafted for the entity once it is saved, and its column cannot hold the id. -/
def Misfits (s : Store) (e group : Entity) (plugin : String) (column : TargetColumn)
    (id : EntityId) : Prop :=
  ∃ saved s' r, s.saveEntity e = (.ok saved, s') ∧ (s'.draft saved group plugin).1 = .ok r ∧
    r.target.column = column ∧ r.key.id = id ∧ (ReferenceField.base column).holds id = false

theorem misfits_of_save {column : TargetColumn} {id : EntityId}
    (hsave : (s.saveEntity e).1 = .ok { e with id := some id, saved := true })
    (hfree : (s.saveEntity e).2.obstacle? { e with id := some id, saved := true } group plugin = none)
    (hcolumn : ((s.saveEntity e).2.columnFor e.type).1 = column)
    (hfits : (ReferenceField.base column).holds id = false) :
    s.Misfits e group plugin column id := by
  obtain ⟨r, hdraft⟩ := exists_draft_iff_obstacle?.mpr hfree
  obtain ⟨i, hdrafts⟩ := drafts_of_draft (Prod.ext hdraft rfl)
  obtain ⟨-, hid, -⟩ := Entity.key?_eq_some_iff.mp hdrafts.key?
  exact ⟨_, _, r, Prod.ext hsave rfl, hdraft, (column_of_draft hdraft).trans hcolumn,
    (Option.some.inj hid).symm, hfits⟩

/-- Tags have serial ids, but no fields. -/
def tags : EntityType := { EntityType.content "tag" "Tag" with fieldable := false }

def terms : EntityType := .namedContent "term" "Term"

def enablerFor (type : String) : EnablerDefinition :=
  { id := "group_" ++ type, label := type, entityType := type }

/-- Clubs take tags and terms. -/
def tagging : Store :=
  let catalog := (club.registry.catalog.register (.entity (enablerFor "tag"))).register
    (.entity (enablerFor "term"))
  let registry := ({ club.registry with catalog }.install "club" "group_tag" none).2
  let registry := (registry.install "club" "group_term" none).2
  { club with types := (club.types.register tags).register terms, registry }

theorem reachable_tagging : tagging.Reachable := by
  have h := reachable_club.step (.registerType _ tags)
  have h := h.step (.registerType _ terms)
  have h := h.step (.registry (.catalog (.register _ (.entity (enablerFor "tag")))))
  have h := h.step (.registry (.catalog (.register _ (.entity (enablerFor "term")))))
  have h := h.step (.registry (.install _ "club" "group_tag" none))
  exact h.step (.registry (.install _ "club" "group_term" none))

/-- The assigned id of a tag is kept among the names. Nor does an id fit that is not of the kind that its
type has: a negative number, a name for a serial id, and a name with other characters. -/
theorem misfits_tagging : tagging.Reachable ∧
    tagging.entities.load ⟨EntityTypeId.group, .int 1⟩ = some chess ∧
    tagging.Misfits (.create default "tag" "tag") chess "group_tag" .name (.int 1) ∧
    tagging.Misfits { newcomer with id := some (.int (-1)) } chess PluginId.membership
      .numeric (.int (-1)) ∧
    tagging.Misfits { newcomer with id := some (.name "ann") } chess PluginId.membership
      .numeric (.name "ann") ∧
    tagging.Misfits { Entity.create default "term" "term" with id := some (.name "café") } chess
      "group_term" .name (.name "café") := by
  refine ⟨reachable_tagging, by decide +kernel, ?_, ?_, ?_, ?_⟩
  · exact misfits_of_save (by decide +kernel) (by decide +kernel) (by decide +kernel) (by decide)
  · exact misfits_of_save (by decide +kernel) (by decide +kernel) (by decide +kernel) (by decide)
  · exact misfits_of_save (by decide +kernel) (by decide +kernel) (by decide +kernel) (by decide)
  · exact misfits_of_save (by decide +kernel) (by decide +kernel) (by decide +kernel) (by decide)

end Store

end Grouping
