import Grouping.Relation.Table
import Mathlib.Data.List.Sort

/-! # Indexes of a table of relations

A table is coherent when both indexes list exactly the rows with a property and the ids ascend. Every
operation keeps a table coherent, so a lookup through an index finds what a scan of all rows finds.
-/

namespace Grouping

theorem filterMap_filter_isSome {β : Type} (l : List Int) (f : Int → Option β) :
    (l.filter fun i => (f i).isSome).filterMap f = l.filterMap f := by
  rw [List.filterMap_filter]
  refine List.filterMap_congr fun i _ => ?_
  cases f i with
  | none => rfl
  | some b => rfl

/-- Ascending lists of ids that find the same values find them in the same order. -/
theorem filterMap_eq_of_ascending {β : Type} {l l' : List Int} {f f' : Int → Option β}
    (hl : l.Pairwise (· < ·)) (hl' : l'.Pairwise (· < ·))
    (h : ∀ i b, i ∈ l ∧ f i = some b ↔ i ∈ l' ∧ f' i = some b) :
    l.filterMap f = l'.filterMap f' := by
  have hmem : ∀ i, i ∈ l.filter (fun i => (f i).isSome) ↔ i ∈ l'.filter (fun i => (f' i).isSome) := by
    intro i
    simp only [List.mem_filter, Option.isSome_iff_exists]
    constructor
    · rintro ⟨hi, b, hb⟩
      exact ⟨((h i b).mp ⟨hi, hb⟩).1, b, ((h i b).mp ⟨hi, hb⟩).2⟩
    · rintro ⟨hi, b, hb⟩
      exact ⟨((h i b).mpr ⟨hi, hb⟩).1, b, ((h i b).mpr ⟨hi, hb⟩).2⟩
  have hids := (hl.filter fun i => (f i).isSome).eq_of_mem_iff
    (hl'.filter fun i => (f' i).isSome) hmem
  rw [← filterMap_filter_isSome l, ← filterMap_filter_isSome l', hids]
  refine List.filterMap_congr fun i hi => ?_
  rw [← hids] at hi
  obtain ⟨hil, hif⟩ := List.mem_filter.mp hi
  obtain ⟨b, hb⟩ := Option.isSome_iff_exists.mp hif
  rw [hb, ((h i b).mp ⟨hil, hb⟩).2]

namespace RowIndex

variable {κ : Type} [DecidableEq κ]

theorem mem_rowsOf_add {x : RowIndex κ} {k j : κ} {id i : Int} :
    i ∈ rowsOf (add x k id) j ↔ k = j ∧ i = id ∨ i ∈ rowsOf x j := by
  unfold add
  rw [rowsOf, OrderedMap.get?_insert]
  by_cases h : k = j
  · subst h
    rw [if_pos rfl, Option.getD_some, Ascending.mem_insert]
    simp
  · rw [if_neg h]
    simp [h, rowsOf]

theorem mem_rowsOf_remove {x : RowIndex κ} {k j : κ} {id i : Int} :
    i ∈ rowsOf (remove x k id) j ↔ i ∈ rowsOf x j ∧ ¬ (k = j ∧ i = id) := by
  have hmem : ∀ i, i ∈ (rowsOf x k).filter (fun i => i ≠ id) ↔ i ∈ rowsOf x k ∧ i ≠ id := by
    simp
  unfold remove
  split
  · next h =>
    rw [h] at hmem
    rw [rowsOf, OrderedMap.get?_erase]
    by_cases hk : k = j
    · subst hk
      have hi := hmem i
      simp only [List.not_mem_nil, false_iff] at hi
      simpa using fun h => Decidable.byContradiction fun h' => hi ⟨h, h'⟩
    · rw [if_neg hk]
      simp [hk, rowsOf]
  · next h =>
    rw [rowsOf, OrderedMap.get?_insert]
    by_cases hk : k = j
    · subst hk
      rw [if_pos rfl, Option.getD_some, hmem]
      simp
    · rw [if_neg hk]
      simp [hk, rowsOf]

/-- The index lists under every value exactly the rows that have it. -/
def Lists (x : RowIndex κ) (rows : OrderedMap Int Relation) (f : Relation → κ) : Prop :=
  ∀ k id, id ∈ rowsOf x k ↔ ∃ r, rows.get? id = some r ∧ f r = k

variable {x : RowIndex κ} {rows rows' : OrderedMap Int Relation} {f : Relation → κ}

theorem Lists.add (h : Lists x rows f) {id : Int} {r : Relation} (hfree : rows.get? id = none)
    (hrows : ∀ i, rows'.get? i = if id = i then some r else rows.get? i) :
    Lists (RowIndex.add x (f r) id) rows' f := by
  intro k i
  rw [mem_rowsOf_add, h k i, hrows i]
  by_cases hi : id = i
  · subst hi
    simp [hfree]
  · simp [hi, Ne.symm hi]

theorem Lists.remove (h : Lists x rows f) {id : Int} {old : Relation}
    (hold : rows.get? id = some old)
    (hrows : ∀ i, rows'.get? i = if id = i then none else rows.get? i) :
    Lists (RowIndex.remove x (f old) id) rows' f := by
  intro k i
  rw [mem_rowsOf_remove, h k i, hrows i]
  by_cases hi : id = i
  · subst hi
    simp [hold]
  · simp [hi, Ne.symm hi]

theorem Lists.replace (h : Lists x rows f) {id : Int} {old r : Relation}
    (hold : rows.get? id = some old)
    (hrows : ∀ i, rows'.get? i = if id = i then some r else rows.get? i) :
    Lists (RowIndex.add (RowIndex.remove x (f old) id) (f r) id) rows' f := by
  have herase := OrderedMap.get?_erase rows id
  apply (h.remove hold herase).add
  · rw [herase, if_pos rfl]
  · intro i
    rw [hrows, herase]
    split
    · rfl
    · rfl

end RowIndex

def Relation.Precedes (r s : Relation) : Prop :=
  ∃ i j, r.id = some i ∧ s.id = some j ∧ i < j

namespace RelationTable

/-- Rows are stored under their own ids in ascending order, and the indexes are exact. -/
structure Coherent (t : RelationTable) : Prop where
  id_eq : ∀ {id r}, t.get? id = some r → r.id = some id
  byGroup : RowIndex.Lists t.byGroup t.rows Relation.group
  byTarget : RowIndex.Lists t.byTarget t.rows Relation.key
  ascending : t.rows.keys.Pairwise (· < ·)
  le_lastId : ∀ id ∈ t.rows.keys, id ≤ t.lastId

theorem coherent_empty : empty.Coherent where
  id_eq h := absurd h nofun
  byGroup k id := by simp [empty, RowIndex.rowsOf]
  byTarget k id := by simp [empty, RowIndex.rowsOf]
  ascending := List.Pairwise.nil
  le_lastId _ h := absurd h List.not_mem_nil

def inserted (t : RelationTable) (r : Relation) : Relation := { r with id := some (t.lastId + 1) }

variable {t t' : RelationTable}

theorem Coherent.get?_next (h : t.Coherent) : t.get? (t.lastId + 1) = none := by
  refine OrderedMap.get?_eq_none_iff.mpr fun hk => ?_
  have := h.le_lastId _ hk
  omega

theorem get?_insert (t : RelationTable) (r : Relation) (i : Int) :
    (t.insert r).2.get? i = if t.lastId + 1 = i then some (t.inserted r) else t.get? i :=
  OrderedMap.get?_insert ..

theorem keys_insert (h : t.Coherent) (r : Relation) :
    (t.insert r).2.rows.keys = t.rows.keys ++ [t.lastId + 1] :=
  (OrderedMap.keys_insert ..).trans (if_neg (OrderedMap.get?_eq_none_iff.mp h.get?_next))

theorem Coherent.insert (h : t.Coherent) (r : Relation) : (t.insert r).2.Coherent where
  id_eq {i x} hx := by
    rw [get?_insert] at hx
    split at hx
    · next hi =>
      cases hx
      rw [← hi]
      rfl
    · exact h.id_eq hx
  byGroup := h.byGroup.add h.get?_next (get?_insert t r)
  byTarget := h.byTarget.add h.get?_next (get?_insert t r)
  ascending := by
    rw [keys_insert h]
    refine List.pairwise_append.mpr ⟨h.ascending, List.pairwise_singleton _ _, ?_⟩
    intro i hi j hj
    rw [List.mem_singleton] at hj
    have := h.le_lastId i hi
    omega
  le_lastId i hi := by
    rw [keys_insert h, List.mem_append, List.mem_singleton] at hi
    change i ≤ t.lastId + 1
    rcases hi with hi | rfl
    · have := h.le_lastId i hi
      omega
    · exact Int.le_refl _

/-- An update replaces the stored row with the relation's id and does nothing else to the rows. -/
theorem update_eq_ok_iff {r r' : Relation} :
    t.update r = .ok (r', t') ↔ r' = r ∧ ∃ id old, r.id = some id ∧ t.get? id = some old ∧
      t' = (t.unindex id old).put id r := by
  unfold update
  cases hid : r.id with
  | none => simp
  | some id =>
    cases hold : t.get? id with
    | none => simp [hold]
    | some old => simp [hold, eq_comm]

theorem get?_rewritten (id : Int) (old r : Relation) (i : Int) :
    ((t.unindex id old).put id r).get? i = if id = i then some r else t.get? i :=
  OrderedMap.get?_insert ..

theorem keys_rewritten {id : Int} {old : Relation} (hold : t.get? id = some old) (r : Relation) :
    ((t.unindex id old).put id r).rows.keys = t.rows.keys :=
  (OrderedMap.keys_insert ..).trans (if_pos (OrderedMap.mem_keys_iff.mpr ⟨old, hold⟩))

theorem Coherent.update (h : t.Coherent) {id : Int} {old r : Relation} (hid : r.id = some id)
    (hold : t.get? id = some old) : ((t.unindex id old).put id r).Coherent where
  id_eq {i x} hx := by
    rw [get?_rewritten] at hx
    split at hx
    · next hi =>
      cases hx
      rw [← hi, hid]
    · exact h.id_eq hx
  byGroup := h.byGroup.replace hold (get?_rewritten id old r)
  byTarget := h.byTarget.replace hold (get?_rewritten id old r)
  ascending := by
    rw [keys_rewritten hold]
    exact h.ascending
  le_lastId i hi := by
    rw [keys_rewritten hold] at hi
    exact h.le_lastId i hi

theorem delete_of_get?_eq_none {id : Int} (h : t.get? id = none) : t.delete id = (false, t) := by
  unfold delete
  rw [h]

theorem delete_of_get?_eq_some {id : Int} {old : Relation} (h : t.get? id = some old) :
    t.delete id =
      (true, { t.unindex id old with rows := t.rows.erase id }) := by
  unfold delete
  rw [h]
  rfl

theorem get?_delete (t : RelationTable) (id i : Int) :
    (t.delete id).2.get? i = if id = i then none else t.get? i := by
  cases hold : t.get? id with
  | none =>
    rw [delete_of_get?_eq_none hold]
    split
    · next h =>
      rw [← h]
      exact hold
    · rfl
  | some old =>
    rw [delete_of_get?_eq_some hold]
    exact OrderedMap.get?_erase ..

theorem Coherent.delete (h : t.Coherent) (id : Int) : (t.delete id).2.Coherent := by
  cases hold : t.get? id with
  | none =>
    rw [delete_of_get?_eq_none hold]
    exact h
  | some old =>
    have hget := get?_delete t id
    rw [delete_of_get?_eq_some hold] at hget ⊢
    exact
      { id_eq := fun {i x} hx => by
          rw [hget] at hx
          split at hx
          · cases hx
          · exact h.id_eq hx
        byGroup := h.byGroup.remove hold hget
        byTarget := h.byTarget.remove hold hget
        ascending := by
          rw [OrderedMap.keys_erase]
          exact h.ascending.filter _
        le_lastId := fun i hi => h.le_lastId i (OrderedMap.mem_keys_erase.mp hi).1 }

theorem relations_eq (t : RelationTable) : t.relations = t.rows.keys.filterMap t.get? :=
  t.rows.values_eq_filterMap

theorem mem_relations_iff {r : Relation} : r ∈ t.relations ↔ ∃ id, t.get? id = some r :=
  OrderedMap.mem_values_iff

theorem filter_filterMap_get? (ids : List Int) (p : Relation → Bool) :
    (ids.filterMap t.get?).filter p = ids.filterMap fun id => (t.get? id).filter p := by
  rw [← List.filterMap_eq_filter, List.filterMap_filterMap]
  refine List.filterMap_congr fun id _ => ?_
  cases t.get? id with
  | none => rfl
  | some r => simp [Option.filter, Option.guard]

theorem relations_insert (h : t.Coherent) (r : Relation) :
    (t.insert r).2.relations = t.relations ++ [t.inserted r] := by
  have hold : t.rows.keys.filterMap (t.insert r).2.get? = t.rows.keys.filterMap t.get? := by
    refine List.filterMap_congr fun id hid => ?_
    have := h.le_lastId id hid
    rw [get?_insert, if_neg (by omega)]
  rw [relations_eq, relations_eq, keys_insert h, List.filterMap_append, hold,
    List.filterMap_cons_some (by rw [get?_insert, if_pos rfl]), List.filterMap_nil]

theorem map_relations_rewritten {α : Type} {f : Relation → α} {id : Int} {old r : Relation}
    (hold : t.get? id = some old) (hf : f r = f old) :
    ((t.unindex id old).put id r).relations.map f = t.relations.map f := by
  rw [relations_eq, relations_eq, keys_rewritten hold, List.map_filterMap, List.map_filterMap]
  refine List.filterMap_congr fun i _ => ?_
  rw [get?_rewritten]
  split
  · next hi =>
    rw [← hi, hold, Option.map_some, Option.map_some, hf]
  · rfl

theorem relations_delete_sublist (t : RelationTable) (id : Int) :
    (t.delete id).2.relations.Sublist t.relations := by
  cases hold : t.get? id with
  | none => rw [delete_of_get?_eq_none hold]
  | some old =>
    rw [delete_of_get?_eq_some hold]
    exact List.filter_sublist.map _

/-- Filtered lists of rows agree when the tables agree row by row. -/
theorem Coherent.filter_eq (h : t.Coherent) (h' : t'.Coherent) {p : Relation → Bool}
    (hrows : ∀ id, (t.get? id).filter p = (t'.get? id).filter p) :
    t.relations.filter p = t'.relations.filter p := by
  rw [relations_eq, relations_eq, filter_filterMap_get?, filter_filterMap_get?]
  refine filterMap_eq_of_ascending h.ascending h'.ascending fun id r => ?_
  have hkey : ∀ {u : RelationTable}, (u.get? id).filter p = some r → id ∈ u.rows.keys := by
    intro u hu
    exact OrderedMap.mem_keys_iff.mpr ⟨r, (Option.filter_eq_some_iff.mp hu).1⟩
  constructor
  · rintro ⟨-, hr⟩
    rw [hrows] at hr
    exact ⟨hkey hr, hr⟩
  · rintro ⟨-, hr⟩
    rw [← hrows] at hr
    exact ⟨hkey hr, hr⟩

/-- Whatever index serves a query, its candidates ascend and include every row that satisfies it. -/
theorem Coherent.candidates (h : t.Coherent) {q : RelationQuery} {ids : List Int}
    (hc : t.candidates? q = some ids) :
    ids.Pairwise (· < ·) ∧ ∀ id r, t.get? id = some r → q.holds r = true → id ∈ ids := by
  unfold candidates? at hc
  split at hc
  · next type is htype his =>
    cases hc
    refine ⟨Ascending.pairwise_ofList _, fun id r hr hq => ?_⟩
    simp only [RelationQuery.holds, htype, his, Bool.and_eq_true, RelationQuery.allows_some_iff,
      Option.all_some, decide_eq_true_eq] at hq
    refine Ascending.mem_ofList.mpr (List.mem_flatMap.mpr ⟨r.key.id, hq.1.2, ?_⟩)
    exact (h.byTarget _ _).mpr ⟨r, hr, EntityKey.ext hq.2.symm rfl⟩
  · obtain ⟨gs, hgs, rfl⟩ := Option.map_eq_some_iff.mp hc
    refine ⟨Ascending.pairwise_ofList _, fun id r hr hq => ?_⟩
    simp only [RelationQuery.holds, hgs, Bool.and_eq_true, RelationQuery.allows_some_iff] at hq
    refine Ascending.mem_ofList.mpr (List.mem_flatMap.mpr ⟨r.group, hq.1.1.1.1, ?_⟩)
    exact (h.byGroup _ _).mpr ⟨r, hr, rfl⟩

theorem Coherent.select_eq_scan (h : t.Coherent) (q : RelationQuery) : t.select q = t.scan q := by
  unfold select scan
  split
  · next ids hc =>
    obtain ⟨hasc, hall⟩ := h.candidates hc
    rw [relations_eq, filter_filterMap_get?, filter_filterMap_get?]
    refine filterMap_eq_of_ascending hasc h.ascending fun id r => ?_
    constructor
    · rintro ⟨-, hr⟩
      exact ⟨OrderedMap.mem_keys_iff.mpr ⟨r, (Option.filter_eq_some_iff.mp hr).1⟩, hr⟩
    · rintro ⟨-, hr⟩
      obtain ⟨hget, hq⟩ := Option.filter_eq_some_iff.mp hr
      exact ⟨hall id r hget hq, hr⟩
  · rfl

/-- The rows of a coherent table ascend by id, so that no row is listed twice. -/
theorem Coherent.pairwise_relations (h : t.Coherent) : t.relations.Pairwise Relation.Precedes := by
  rw [relations_eq]
  refine List.pairwise_filterMap.mpr (h.ascending.imp ?_)
  intro i j hij r hr s hs
  exact ⟨i, j, h.id_eq hr, h.id_eq hs, hij⟩

/-- Tables that come from the empty one by any operations. -/
inductive Reachable : RelationTable → Prop
  | empty : Reachable empty
  | insert {t : RelationTable} (r : Relation) : Reachable t → Reachable (t.insert r).2
  | update {t t' : RelationTable} {r r' : Relation} :
      t.update r = .ok (r', t') → Reachable t → Reachable t'
  | delete {t : RelationTable} (id : Int) : Reachable t → Reachable (t.delete id).2

theorem Reachable.coherent (h : t.Reachable) : t.Coherent := by
  induction h with
  | empty => exact coherent_empty
  | insert r _ ih => exact ih.insert r
  | update hu _ ih =>
    obtain ⟨-, id, old, hid, hold, rfl⟩ := update_eq_ok_iff.mp hu
    exact ih.update hid hold
  | delete id _ ih => exact ih.delete id

/-- In every table that operations can produce, a query answers the rows that satisfy it, each once
and by ascending id, as a scan does. -/
theorem select_of_reachable (h : t.Reachable) (q : RelationQuery) :
    t.select q = t.scan q ∧ (t.select q).Pairwise Relation.Precedes ∧
      ∀ r, r ∈ t.select q ↔ (∃ id, t.get? id = some r) ∧ q.holds r = true := by
  have hs := h.coherent.select_eq_scan q
  refine ⟨hs, ?_, fun r => ?_⟩
  · rw [hs]
    exact h.coherent.pairwise_relations.filter _
  · rw [hs, scan, List.mem_filter, mem_relations_iff]

/-- A row that was moved to another group is found there and no longer where it was. -/
theorem select_after_move : ∃ (t : RelationTable) (r : Relation), t.Reachable ∧ r.group = 2 ∧
    t.select (.inGroup 2) = t.scan (.inGroup 2) ∧ t.select (.inGroup 2) = [r] ∧
      t.select (.inGroup 1) = [] := by
  let r : Relation := .draft default default 1 "club" "club-subgroup" "subgroup" default
  let moved : Relation := { empty.inserted r with group := 2 }
  have hu : (empty.insert r).2.update moved = .ok (moved, _) := rfl
  have ht := Reachable.update hu (.insert r .empty)
  exact ⟨_, moved, ht, rfl, (select_of_reachable ht (.inGroup 2)).1, rfl, rfl⟩

end RelationTable

end Grouping
