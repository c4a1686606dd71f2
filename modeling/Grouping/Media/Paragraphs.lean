import Grouping.Media.Reference

/-! # Media in paragraphs

Paragraphs are parts of their hosts and may have parts in turn. `paragraphs` goes through all parts of
an entity, each one once, a part before its own parts. Parts may refer to each other in circles and to
what is not stored; every step either looks up a stored part for the first time or shortens the list of
parts to look up.
-/

namespace Grouping.Media

/-- The parts that an entity refers to. -/
def partKeys (e : Entity) : List EntityKey :=
  referredKeys .compositeReference EntityTypeId.paragraph e

/-- The number of stored keys that were not visited yet. -/
def unvisited (s : EntityStore) (visited : List EntityKey) : Nat :=
  (s.rows.keys.filter fun k => k ∉ visited).length

theorem unvisited_cons (s : EntityStore) (visited : List EntityKey) (k : EntityKey) :
    unvisited s (k :: visited) = ((s.rows.keys.filter fun j => j ∉ visited).filter (· ≠ k)).length := by
  unfold unvisited
  rw [List.filter_filter]
  refine congrArg List.length (List.filter_congr fun j _ => ?_)
  simp only [List.mem_cons, not_or, ne_eq, Bool.decide_and]

theorem unvisited_cons_le (s : EntityStore) (visited : List EntityKey) (k : EntityKey) :
    unvisited s (k :: visited) ≤ unvisited s visited := by
  rw [unvisited_cons]
  exact List.length_filter_le _ _

theorem unvisited_cons_lt {s : EntityStore} {visited : List EntityKey} {k : EntityKey} {e : Entity}
    (hv : k ∉ visited) (he : s.load k = some e) :
    unvisited s (k :: visited) < unvisited s visited := by
  rw [unvisited_cons]
  refine List.length_filter_lt_length_iff_exists.mpr ⟨k, List.mem_filter.mpr ⟨?_, ?_⟩, ?_⟩
  · exact (OrderedMap.contains_iff_mem_keys _ _).mp (Option.isSome_of_eq_some he)
  · exact decide_eq_true hv
  · simp

/-- The parts under the pending keys, in the order of a walk that visits a part's own parts next. -/
def walk (s : EntityStore) (visited : List EntityKey) : List EntityKey → List Entity
  | [] => []
  | k :: pending =>
    if k ∈ visited then walk s visited pending
    else
      match _found : s.load k with
      | none => walk s (k :: visited) pending
      | some part => part :: walk s (k :: visited) (partKeys part ++ pending)
termination_by pending => (unvisited s visited, pending.length)
decreasing_by
  · exact Prod.Lex.right _ (Nat.lt_succ_self _)
  · rcases Nat.lt_or_eq_of_le (unvisited_cons_le s visited k) with hlt | heq
    · exact Prod.Lex.left _ _ hlt
    · rw [heq]
      exact Prod.Lex.right _ (Nat.lt_succ_self _)
  · exact Prod.Lex.left _ _ (unvisited_cons_lt ‹_› _found)

/-- All parts of an entity, but not the entity itself if it is stored. -/
def paragraphs (s : EntityStore) (e : Entity) : List Entity := walk s e.key?.toList (partKeys e)

/-- The stored media that the parts of the entity refer to. -/
def referredByParagraphs (s : EntityStore) (e : Entity) : List Entity :=
  (paragraphs s e).flatMap (referred s)

def paragraphsFinder : Finder where
  id := "paragraphs_media_reference"
  label := "Media in paragraphs"
  kinds := [.compositeReference]
  search := Finder.quiet referredByParagraphs

end Grouping.Media
