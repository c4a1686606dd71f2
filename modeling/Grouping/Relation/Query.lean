import Grouping.Relation

/-! # Queries over relations

A query is a conjunction of filters. An absent filter allows every relation; a list filter allows
its members, so that an empty list allows none.
-/

namespace Grouping

structure RelationQuery where
  groups : Option (List Int64) := none
  contentTypes : Option (List String) := none
  plugins : Option (List String) := none
  targetType : Option String := none
  targetIds : Option (List EntityId) := none
  deriving DecidableEq, Inhabited

namespace RelationQuery

def allows {α : Type} [DecidableEq α] (filter : Option (List α)) (a : α) : Bool :=
  match filter with
  | none => true
  | some l => l.contains a

def holds (q : RelationQuery) (r : Relation) : Bool :=
  allows q.groups r.group && allows q.contentTypes r.contentType && allows q.plugins r.plugin &&
    allows q.targetIds r.key.id && (q.targetType.all fun t => t = r.key.type)

/-- Relations of a group, of one plugin or of any. -/
def inGroup (group : Int64) (plugin : Option String := none) : RelationQuery :=
  { groups := some [group], plugins := plugin.map fun p => [p] }

def ofTarget (k : EntityKey) : RelationQuery :=
  { targetType := some k.type, targetIds := some [k.id] }

theorem allows_some_iff {α : Type} [DecidableEq α] {l : List α} {a : α} :
    allows (some l) a = true ↔ a ∈ l := by
  simp [allows]

theorem ofTarget_holds_iff {k : EntityKey} {r : Relation} :
    (ofTarget k).holds r = true ↔ r.key = k := by
  unfold ofTarget holds
  simp only [allows, Bool.true_and, Bool.and_eq_true, List.contains_iff_mem, List.mem_singleton,
    Option.all_some, decide_eq_true_eq]
  constructor
  · rintro ⟨hid, htype⟩
    cases k
    simp_all [EntityKey.ext_iff]
  · rintro rfl
    exact ⟨rfl, rfl⟩

end RelationQuery

end Grouping
