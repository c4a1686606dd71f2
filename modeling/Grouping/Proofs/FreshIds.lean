import Grouping.Proofs.SerialIds
import Mathlib.Data.List.Infix

/-! # Ids that were never in use

Entities are saved to an archive and deleted from it, and their types may change. In such a run an entity
that is saved without an id gets one that nothing of its type was ever stored under, whatever ids other
entities brought along and whatever was deleted, as long as the range of ids lasts.
-/

namespace Grouping

theorem EntityStore.isOk_save_iff {x : EntityStore} {types : TypeTable} {e : Entity} :
    (∃ p, x.save types e = .ok p) ↔
      ∃ t, types.get? e.type = some t ∧ (e.id = none → t.idKind = .serial) := by
  unfold save TypeTable.require
  cases types.get? e.type with
  | none => exact iff_of_false (fun ⟨_, h⟩ => by cases h) (fun ⟨_, h, _⟩ => by cases h)
  | some t =>
    dsimp only
    split
    · next hid => exact iff_of_true ⟨_, rfl⟩ ⟨t, rfl, by simp [hid]⟩
    · next hid => exact iff_of_true ⟨_, rfl⟩ ⟨t, rfl, by simp [hid]⟩
    · next hserial => exact iff_of_true ⟨_, rfl⟩ ⟨t, rfl, fun _ => hserial⟩
    · next hid hname => exact iff_of_false (fun ⟨_, h⟩ => by cases h) (by simp [hid, hname])

structure Archive where
  types : TypeTable
  entities : EntityStore

namespace Archive

inductive Change
  | registerType (t : EntityType)
  | save (e : Entity)
  | delete (k : EntityKey)

variable {a : Archive} {types : TypeTable} {changes : List Change} {e e' : Entity} {k : EntityKey}
  {type : String} {n : Int64}

def blank (types : TypeTable) : Archive := ⟨types, .empty⟩

def save (a : Archive) (e : Entity) : Outcome Archive Entity :=
  match a.entities.save a.types e with
  | .error f => (.error f, a)
  | .ok (e, entities) => (.ok e, { a with entities })

def perform (a : Archive) : Change → Archive
  | .registerType t => { a with types := a.types.register t }
  | .save e => (a.save e).2
  | .delete k => { a with entities := a.entities.delete k }

def after (a : Archive) (changes : List Change) : Archive := changes.foldl perform a

/-- Something was stored under the key, at the end of the run or at some time before. -/
def Held (a : Archive) (changes : List Change) (k : EntityKey) : Prop :=
  ∃ earlier, earlier <+: changes ∧ ((a.after earlier).entities.load k).isSome

instance (a : Archive) (changes : List Change) (k : EntityKey) : Decidable (a.Held changes k) :=
  decidable_of_iff (∃ earlier ∈ changes.inits, ((a.after earlier).entities.load k).isSome)
    (by simp only [Held, List.mem_inits])

theorem after_append (a : Archive) (earlier later : List Change) :
    a.after (earlier ++ later) = (a.after earlier).after later :=
  List.foldl_append

theorem save_cases (a : Archive) (e : Entity) :
    (∃ f, a.save e = (.error f, a)) ∨
      ∃ e' entities, a.entities.save a.types e = .ok (e', entities) ∧
        a.save e = (.ok e', { a with entities }) := by
  unfold save
  cases a.entities.save a.types e with
  | error f => exact .inl ⟨f, rfl⟩
  | ok p => exact .inr ⟨p.1, p.2, rfl, rfl⟩

theorem isOk_save_iff : (∃ e', (a.save e).1 = .ok e') ↔
    ∃ t, a.types.get? e.type = some t ∧ (e.id = none → t.idKind = .serial) := by
  rw [← EntityStore.isOk_save_iff (x := a.entities)]
  unfold save
  cases a.entities.save a.types e with
  | error f => simp
  | ok p => simp

/-! ## Runs -/

theorem step_perform (a : Archive) (c : Change) : a.entities.Step (a.perform c).entities := by
  cases c with
  | registerType t => exact .stay _
  | save e =>
    change a.entities.Step (a.save e).2.entities
    rcases a.save_cases e with ⟨f, h⟩ | ⟨e', entities, hsave, h⟩
    · rw [h]
      exact .stay _
    · rw [h]
      exact .save hsave
  | delete k => exact .delete _ k

/-- The stores of a run are a history, in which the keys are those that held something. -/
theorem exists_history_after (types : TypeTable) (changes : List Change) : ∃ past,
    ((blank types).after changes).entities.History past ∧
      ∀ k, EntityStore.Had (((blank types).after changes).entities :: past) k ↔
        (blank types).Held changes k := by
  induction changes using List.reverseRecOn with
  | nil => exact ⟨[], .empty, fun k => by simp [EntityStore.Had, Held]⟩
  | append_singleton changes c ih =>
    obtain ⟨past, hpast, hhad⟩ := ih
    rw [after_append]
    refine ⟨_, hpast.step (step_perform _ c), fun k => ?_⟩
    rw [EntityStore.had_cons_iff, hhad]
    simp only [Held, List.prefix_concat_iff, or_and_right, exists_or, exists_eq_left, after_append]

theorem Held.mono (h : a.Held changes k) (c : Change) : a.Held (changes ++ [c]) k := by
  obtain ⟨earlier, hprefix, hload⟩ := h
  exact ⟨earlier, hprefix.trans (List.prefix_append changes [c]), hload⟩

/-- What is saved without an id gets one that its type never had, unless the range of ids is used up. What
is stored is stored under its key. A save fails if the type is unknown, or if it asks for a name that is
not given, and then it changes nothing. -/
theorem save_after (types : TypeTable) (changes : List Change) (e : Entity) :
    let a := (blank types).after changes
    (¬ (blank types).Held (changes ++ [.save e]) ⟨e.type, .int Int64.maxValue⟩ → e.id = none →
      ∀ e', (a.save e).1 = .ok e' →
        ∃ n, e' = { e with id := some (.int n), saved := true } ∧
          ¬ (blank types).Held changes ⟨e.type, .int n⟩ ∧
          (a.save e).2.entities.rows.entries =
            a.entities.rows.entries ++ [(⟨e.type, .int n⟩, e')]) ∧
    (∀ k x, a.entities.load k = some x → x.saved = true ∧ x.type = k.type ∧ x.id = some k.id) ∧
    ((∃ e', (a.save e).1 = .ok e') ↔
      ∃ t, a.types.get? e.type = some t ∧ (e.id = none → t.idKind = .serial)) ∧
    ∀ f, (a.save e).1 = .error f → (a.save e).2 = a := by
  intro a
  obtain ⟨past, hpast, hhad⟩ := exists_history_after types changes
  refine ⟨fun hrange hid e' hok => ?_, fun k x hload => ?_, isOk_save_iff, fun f herror => ?_⟩
  · -- nothing was ever stored under the next id, as nothing was under the highest
    have hfresh : ¬ (blank types).Held changes ⟨e.type, .int (a.entities.nextId e.type)⟩ := by
      rw [← hhad]
      exact hpast.not_had_nextId fun hmax => hrange (((hhad _).mp hmax).mono _)
    have hfree : a.entities.load ⟨e.type, .int (a.entities.nextId e.type)⟩ = none := by
      by_contra hload
      exact hfresh ⟨changes, List.prefix_rfl, Option.isSome_iff_ne_none.mpr hload⟩
    rcases a.save_cases e with ⟨f, h⟩ | ⟨saved, entities, hsave, h⟩
    · rw [h] at hok
      cases hok
    · rw [h] at hok ⊢
      cases hok
      exact ⟨_, (EntityStore.save_of_no_id hsave hid).1, hfresh,
        EntityStore.entries_save hsave hid hfree⟩
  · obtain ⟨hsaved, hid, htype⟩ := Entity.key?_eq_some_iff.mp (hpast.keyed k x hload)
    exact ⟨hsaved, htype.symm, hid⟩
  · rcases a.save_cases e with ⟨f', h⟩ | ⟨saved, entities, -, h⟩
    · rw [h]
    · rw [h] at herror
      cases herror

/-- Articles come with ids of all kinds, the one with the highest is deleted, and for a while articles
must have names. -/
def drafts : List Change :=
  let article := Entity.create default EntityTypeId.node "article"
  [.save { article with id := some (.int 7) }, .save { article with id := some (.int (-3)) },
    .save { article with id := some (.name "draft") }, .save article,
    .delete ⟨EntityTypeId.node, .int 8⟩, .registerType (.config EntityTypeId.node "Page"),
    .save article, .registerType (.content EntityTypeId.node "Content")]

/-- The id of the deleted article is not given again. -/
theorem save_after_drafts :
    let a := (blank .standard).after drafts
    let article := Entity.create default EntityTypeId.node "article"
    a.entities.load ⟨EntityTypeId.node, .int 8⟩ = none ∧
      (blank .standard).Held drafts ⟨EntityTypeId.node, .int 8⟩ ∧
      ¬ (blank .standard).Held drafts ⟨EntityTypeId.node, .int 9⟩ ∧
      (a.save article).1 = .ok { article with id := some (.int 9), saved := true } := by
  intro a article
  have hsave : (a.save article).1 = .ok { article with id := some (.int 9), saved := true } := by
    decide +kernel
  have hrange : ¬ (blank .standard).Held (drafts ++ [.save article])
      ⟨EntityTypeId.node, .int Int64.maxValue⟩ := by
    decide +kernel
  obtain ⟨hfresh, -⟩ := save_after .standard drafts article
  obtain ⟨n, hn, hheld, -⟩ := hfresh hrange rfl _ hsave
  cases hn
  exact ⟨by decide +kernel, by decide +kernel, hheld, hsave⟩

end Archive

end Grouping
