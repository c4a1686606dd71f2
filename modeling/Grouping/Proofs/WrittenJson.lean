import Grouping.Ascending
import Grouping.Json.Record
import Grouping.OrderedMap
import Mathlib.Data.List.Perm.Basic

/-! # Records that were written

An object sorts its members, which a reader does not notice as long as their keys are distinct: each
field is found as it was written. A map that is written as an object is read back in the order of its
keys.
-/

namespace Grouping.Json

variable {α : Type} {l : List (String × Json)} {k : String} {v : Json}

/-! ## Sorted members -/

theorem keys_insertMember (k : String) (v : Json) (l : List (String × Json)) :
    (insertMember k v l).map Prod.fst = Ascending.insert k (l.map Prod.fst) := by
  induction l with
  | nil => rfl
  | cons e l ih =>
    rw [insertMember, List.map_cons, Ascending.insert]
    by_cases he : e.1 = k
    · rw [if_pos he, if_pos he.symm, List.map_cons, he]
    · rw [if_neg he, if_neg (Ne.symm he)]
      split
      · rfl
      · rw [List.map_cons, ih]

theorem perm_insertMember (h : k ∉ l.map Prod.fst) : (insertMember k v l).Perm ((k, v) :: l) := by
  induction l with
  | nil => exact .refl _
  | cons e l ih =>
    rw [List.map_cons, List.mem_cons, not_or] at h
    rw [insertMember, if_neg (Ne.symm h.1)]
    split
    · exact .refl _
    · exact ((ih h.2).cons e).trans (.swap ..)

theorem pairwise_sortMembers (l : List (String × Json)) :
    ((sortMembers l).map Prod.fst).Pairwise (· < ·) := by
  suffices hfold : ∀ acc : List (String × Json), (acc.map Prod.fst).Pairwise (· < ·) →
      ((l.foldl (fun l e => insertMember e.1 e.2 l) acc).map Prod.fst).Pairwise (· < ·) from
    hfold [] List.Pairwise.nil
  induction l with
  | nil => exact fun _ h => h
  | cons e l ih =>
    intro acc h
    apply ih
    rw [keys_insertMember]
    exact Ascending.pairwise_insert h

theorem perm_sortMembers (h : (l.map Prod.fst).Nodup) : (sortMembers l).Perm l := by
  suffices hfold : ∀ acc : List (String × Json), (∀ e ∈ l, e.1 ∉ acc.map Prod.fst) →
      (l.foldl (fun l e => insertMember e.1 e.2 l) acc).Perm (l ++ acc) by
    have hperm := hfold [] fun _ _ => List.not_mem_nil
    rwa [List.append_nil] at hperm
  -- the members that are still to come have other keys than those inserted so far
  induction l with
  | nil => exact fun acc _ => .refl acc
  | cons e l ih =>
    intro acc hfree
    obtain ⟨hfreee, hfree⟩ := List.forall_mem_cons.mp hfree
    obtain ⟨he, hl⟩ := List.nodup_cons.mp h
    have hperm := perm_insertMember (v := e.2) hfreee
    refine (ih hl _ fun x hx hmem => ?_).trans ((hperm.append_left l).trans List.perm_middle)
    rcases List.mem_cons.mp ((hperm.map Prod.fst).mem_iff.mp hmem) with hxe | hmem
    · exact he (hxe ▸ List.mem_map_of_mem hx)
    · exact hfree x hx hmem

theorem lookup_eq (k : String) (l : List (String × Json)) : lookup k l = OrderedMap.lookup k l := by
  induction l with
  | nil => rfl
  | cons e l ih => rw [lookup, OrderedMap.lookup, ih]

theorem lookup_sortMembers (h : (l.map Prod.fst).Nodup) (k : String) :
    lookup k (sortMembers l) = lookup k l := by
  have hperm := perm_sortMembers h
  have hsorted := (hperm.map Prod.fst).nodup_iff.mpr h
  apply Option.ext
  intro v
  rw [lookup_eq, lookup_eq, OrderedMap.lookup_eq_some_iff h, OrderedMap.lookup_eq_some_iff hsorted,
    hperm.mem_iff]

/-- The fields of an object are found as they were written. -/
theorem slots_object (h : (l.map Prod.fst).Nodup) (names : List String) :
    slots names (object l) = some (names.map fun n => slotOf (lookup n l)) := by
  simp only [slots, object, lookup_sortMembers h]

/-! ## Decoders -/

/-- Whatever is written is read back. -/
def Reads (f : Decode α) (g : α → Json) : Prop := ∀ a, f (g a) = some a

theorem reads_string : Reads string? str := fun _ => rfl

theorem mapM_map_eq_some {β : Type} {f : β → Option α} {g : α → β} (h : ∀ a, f (g a) = some a)
    (l : List α) : (l.map g).mapM f = some l := by
  induction l with
  | nil => rfl
  | cons a l ih => simp [h a, ih]

theorem Reads.list {f : Decode α} {g : α → Json} (h : Reads f g) :
    Reads (list? f) fun l => arr (l.map g) := mapM_map_eq_some h

theorem Reads.members {f : Decode α} {g : α → Json} (h : Reads f g) (l : List (String × α)) :
    members? f (obj (l.map fun e => (e.1, g e.2))) = some l :=
  mapM_map_eq_some (fun e => by simp [h e.2]) l

theorem Reads.optional {f : Decode α} {g : α → Json} (h : Reads f g) (hnull : ∀ a, g a ≠ null)
    (o : Option α) : (Slot.given (ofOption g o)).optional f = some o := by
  cases o with
  | none => rfl
  | some a => simp [ofOption, Slot.optional, h a, hnull a]

/-- A map with distinct keys is read back in the order of its keys. -/
theorem Reads.object {f : Decode α} {g : α → Json} (h : Reads f g) {l : List (String × α)}
    (hl : (l.map Prod.fst).Nodup) :
    ∃ l', members? f (object (l.map fun e => (e.1, g e.2))) = some l' ∧ l'.Perm l ∧
      (l'.map Prod.fst).Pairwise (· < ·) := by
  have hkeys (l : List (String × α)) : (l.map fun e => (e.1, g e.2)).map Prod.fst = l.map Prod.fst :=
    List.map_map
  have hperm := perm_sortMembers (hkeys l ▸ hl)
  obtain ⟨l', hmembers, hl'⟩ := (congrFun₂ (List.eq_map_comp_perm _) _ _).mpr hperm
  refine ⟨l', ?_, hl', ?_⟩
  · rw [Json.object, hmembers]
    exact h.members l'
  · rw [← hkeys, ← hmembers]
    exact pairwise_sortMembers _

end Grouping.Json
