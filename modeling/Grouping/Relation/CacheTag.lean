import Grouping.Ascending
import Grouping.Relation

/-! # Cache tags

Lists of relations are cached by group, by target id, by plugin, and by a plugin together with one of
the other two. A change of a relation makes every list stale in which it can appear, and the
relation itself.
-/

namespace Grouping.CacheTag

def ofGroup (group : Int64) : String := "group_content_list:group:" ++ toString group.toInt

def ofTarget (target : EntityId) : String := "group_content_list:entity:" ++ target.text

def ofPlugin (plugin : String) : String := "group_content_list:plugin:" ++ plugin

def ofPluginInGroup (plugin : String) (group : Int64) : String :=
  ofPlugin plugin ++ ":group:" ++ toString group.toInt

def ofPluginForTarget (plugin : String) (target : EntityId) : String :=
  ofPlugin plugin ++ ":entity:" ++ target.text

def ofRelation (id : Int) : String := "group_content:" ++ toString id

/-- What a change of the relation makes stale, in ascending order. -/
def stale (r : Relation) : List String :=
  Ascending.ofList ((r.id.map ofRelation).toList ++
    [ofGroup r.group, ofTarget r.key.id, ofPlugin r.plugin, ofPluginInGroup r.plugin r.group,
      ofPluginForTarget r.plugin r.key.id])

theorem mem_stale {r : Relation} {tag : String} :
    tag ∈ stale r ↔ (∃ id, r.id = some id ∧ tag = ofRelation id) ∨ tag = ofGroup r.group ∨
      tag = ofTarget r.key.id ∨ tag = ofPlugin r.plugin ∨ tag = ofPluginInGroup r.plugin r.group ∨
      tag = ofPluginForTarget r.plugin r.key.id := by
  unfold stale
  rw [Ascending.mem_ofList, List.mem_append]
  cases h : r.id with
  | none => simp
  | some id => simp

end Grouping.CacheTag
