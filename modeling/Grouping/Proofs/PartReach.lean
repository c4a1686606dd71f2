import Grouping.Media.Paragraphs
import Grouping.Proofs.Reachability
import Mathlib.Logic.Function.Iterate

/-! # Which parts are found

The walk over the parts of a host is a loop with a stack of pending keys. It comes to an end, and then
it has found what is stored under the keys that are reached from the host, each key once. A part that
the host does not refer to comes after a part that refers to it.
-/

namespace Grouping.Media

variable {s : EntityStore} {visited pending : List EntityKey} {found : List Entity}
  {j k : EntityKey} {part : Entity}

/-! ## The loop -/

/-- The keys on the stack are looked up from its top, which is the end of the list. -/
structure Frontier where
  visited : List EntityKey
  stack : List EntityKey
  found : List Entity

namespace Frontier

def start (host : Entity) : Frontier := ⟨host.key?.toList, (partKeys host).reverse, []⟩

/-- Takes a key off the stack and puts the keys under it on, so that its first one is the next. -/
def round (s : EntityStore) (c : Frontier) : Frontier :=
  match c.stack.getLast? with
  | none => c
  | some k =>
    let rest := c.stack.dropLast
    if k ∈ c.visited then { c with stack := rest }
    else
      match s.load k with
      | none => { c with visited := k :: c.visited, stack := rest }
      | some part => ⟨k :: c.visited, rest ++ (partKeys part).reverse, c.found ++ [part]⟩

theorem round_of_visited (hk : k ∈ visited) :
    round s ⟨visited, (k :: pending).reverse, found⟩ = ⟨visited, pending.reverse, found⟩ := by
  simp [round, hk]

theorem round_of_missing (hk : k ∉ visited) (hload : s.load k = none) :
    round s ⟨visited, (k :: pending).reverse, found⟩ =
      ⟨k :: visited, pending.reverse, found⟩ := by
  simp [round, hk, hload]

theorem round_of_stored (hk : k ∉ visited) (hload : s.load k = some part) :
    round s ⟨visited, (k :: pending).reverse, found⟩ =
      ⟨k :: visited, (partKeys part ++ pending).reverse, found ++ [part]⟩ := by
  simp [round, hk, hload]

/-- Every key that was on the stack at some time takes one round. -/
theorem iterate_round (s : EntityStore) (visited pending : List EntityKey) (found : List Entity) :
    ∃ visited', (round s)^[pending.length + ((walk s visited pending).flatMap partKeys).length]
      ⟨visited, pending.reverse, found⟩ = ⟨visited', [], found ++ walk s visited pending⟩ := by
  fun_induction walk s visited pending generalizing found with
  | case1 visited => exact ⟨visited, by simp⟩
  | case2 visited k pending hk ih =>
    obtain ⟨visited', h⟩ := ih found
    refine ⟨visited', ?_⟩
    rw [List.length_cons, Nat.add_right_comm, Function.iterate_succ_apply, round_of_visited hk, h]
  | case3 visited k pending hk hload ih =>
    obtain ⟨visited', h⟩ := ih found
    refine ⟨visited', ?_⟩
    rw [List.length_cons, Nat.add_right_comm, Function.iterate_succ_apply,
      round_of_missing hk hload, h]
  | case4 visited k pending hk part hload ih =>
    obtain ⟨visited', h⟩ := ih (found ++ [part])
    refine ⟨visited', ?_⟩
    have hrounds : (k :: pending).length +
        ((part :: walk s (k :: visited) (partKeys part ++ pending)).flatMap partKeys).length =
          (partKeys part ++ pending).length +
            ((walk s (k :: visited) (partKeys part ++ pending)).flatMap partKeys).length + 1 := by
      simp only [List.length_cons, List.flatMap_cons, List.length_append]
      omega
    rw [hrounds, Function.iterate_succ_apply, round_of_stored hk hload, h, List.append_assoc,
      List.singleton_append]

theorem exists_rounds (s : EntityStore) (host : Entity) : ∃ rounds visited,
    (round s)^[rounds] (start host) = ⟨visited, [], paragraphs s host⟩ := by
  obtain ⟨visited, h⟩ := iterate_round s host.key?.toList (partKeys host) []
  exact ⟨_, visited, h⟩

end Frontier

/-! ## Reached keys -/

/-- A key is reached if it is pending, or if a stored part that is reached refers to it; a path does
not go through the keys to avoid. -/
inductive Reached (s : EntityStore) (avoided pending : List EntityKey) : EntityKey → Prop
  | here {k : EntityKey} : k ∈ pending → k ∉ avoided → Reached s avoided pending k
  | under {j k : EntityKey} {part : Entity} : Reached s avoided pending j →
      s.load j = some part → k ∈ partKeys part → k ∉ avoided → Reached s avoided pending k

theorem Reached.not_mem (h : Reached s visited pending k) : k ∉ visited := by
  cases h with
  | here _ hk => exact hk
  | under _ _ _ hk => exact hk

theorem not_reached_nil : ¬ Reached s visited [] k := by
  intro h
  induction h with
  | here hmem => simp at hmem
  | under _ _ _ _ ih => exact ih

theorem reached_cons_of_visited (hk : k ∈ visited) :
    Reached s visited (k :: pending) j ↔ Reached s visited pending j := by
  constructor
  · intro h
    induction h with
    | here hmem hj =>
      rcases List.mem_cons.mp hmem with rfl | hmem
      · exact absurd hk hj
      · exact .here hmem hj
    | under _ hload hpart hj ih => exact .under ih hload hpart hj
  · intro h
    induction h with
    | here hmem hj => exact .here (List.mem_cons_of_mem k hmem) hj
    | under _ hload hpart hj ih => exact .under ih hload hpart hj

/-- The keys in the part that is stored under a key. -/
def keysUnder (s : EntityStore) (k : EntityKey) : List EntityKey := (s.load k).elim [] partKeys

/-- Once a key is looked up, paths that lead through it can start from the keys under it. -/
theorem reached_cons_iff (hk : k ∉ visited) : Reached s visited (k :: pending) j ↔
    j = k ∨ Reached s (k :: visited) (keysUnder s k ++ pending) j := by
  constructor
  · intro h
    induction h with
    | @here j hmem hj =>
      by_cases hjk : j = k
      · exact .inl hjk
      · have hmem : j ∈ pending := (List.mem_cons.mp hmem).resolve_left hjk
        exact .inr (.here (List.mem_append_right _ hmem) (by simp [hjk, hj]))
    | @under i j part _ hload hpart hj ih =>
      by_cases hjk : j = k
      · exact .inl hjk
      · right
        rcases ih with rfl | hi
        · exact .here (List.mem_append_left _ (by simpa [keysUnder, hload])) (by simp [hjk, hj])
        · exact .under hi hload hpart (by simp [hjk, hj])
  · rintro (rfl | h)
    · exact .here List.mem_cons_self hk
    · induction h with
      | @here j hmem hj =>
        have hj : j ∉ visited := fun hv => hj (List.mem_cons_of_mem k hv)
        rcases List.mem_append.mp hmem with hunder | hmem
        · cases hload : s.load k with
          | none => simp [keysUnder, hload] at hunder
          | some part =>
            rw [keysUnder, hload] at hunder
            exact .under (.here List.mem_cons_self hk) hload hunder hj
        · exact .here (List.mem_cons_of_mem k hmem) hj
      | under _ hload hpart hj ih =>
        exact .under ih hload hpart fun hv => hj (List.mem_cons_of_mem k hv)

/-- The parts are what is stored under the keys, and the keys are those that are reached. -/
structure Lists (s : EntityStore) (visited pending keys : List EntityKey) (parts : List Entity) :
    Prop where
  loads : keys.map s.load = parts.map some
  nodup : keys.Nodup
  mem_iff : ∀ k, k ∈ keys ↔ Reached s visited pending k ∧ (s.load k).isSome

theorem exists_lists_walk (s : EntityStore) (visited pending : List EntityKey) :
    ∃ keys, Lists s visited pending keys (walk s visited pending) := by
  fun_induction walk s visited pending with
  | case1 visited => exact ⟨[], rfl, .nil, fun k => by simp [not_reached_nil]⟩
  | case2 visited k pending hk ih =>
    obtain ⟨keys, hkeys⟩ := ih
    refine ⟨keys, hkeys.loads, hkeys.nodup, fun j => ?_⟩
    rw [hkeys.mem_iff, reached_cons_of_visited hk]
  | case3 visited k pending hk hload ih =>
    obtain ⟨keys, hkeys⟩ := ih
    refine ⟨keys, hkeys.loads, hkeys.nodup, fun j => ?_⟩
    rw [hkeys.mem_iff, reached_cons_iff hk, keysUnder, hload]
    refine and_congr_left fun hj => ⟨.inr, ?_⟩
    rintro (rfl | h)
    · simp [hload] at hj
    · exact h
  | case4 visited k pending hk part hload ih =>
    obtain ⟨keys, hkeys⟩ := ih
    refine ⟨k :: keys, by simp [hload, hkeys.loads], ?_, fun j => ?_⟩
    · refine List.nodup_cons.mpr ⟨fun hmem => ?_, hkeys.nodup⟩
      exact ((hkeys.mem_iff k).mp hmem).1.not_mem List.mem_cons_self
    · have hunder : keysUnder s k = partKeys part := by simp [keysUnder, hload]
      rw [List.mem_cons, hkeys.mem_iff, reached_cons_iff hk, hunder]
      constructor
      · rintro (rfl | ⟨h, hj⟩)
        · exact ⟨.inl rfl, by simp [hload]⟩
        · exact ⟨.inr h, hj⟩
      · rintro ⟨rfl | h, hj⟩
        · exact .inl rfl
        · exact .inr ⟨h, hj⟩

/-- What is found was pending at the beginning, or a part that was found before refers to it. -/
theorem referred_of_walk_eq {pre post : List Entity}
    (h : walk s visited pending = pre ++ part :: post) : (∃ k ∈ pending, s.load k = some part) ∨
      ∃ p ∈ pre, ∃ k ∈ partKeys p, s.load k = some part := by
  fun_induction walk s visited pending generalizing pre with
  | case1 visited => simp at h
  | case2 visited k pending hk ih =>
    exact (ih h).imp_left fun ⟨j, hj, hload⟩ => ⟨j, List.mem_cons_of_mem k hj, hload⟩
  | case3 visited k pending hk hload ih =>
    exact (ih h).imp_left fun ⟨j, hj, hload⟩ => ⟨j, List.mem_cons_of_mem k hj, hload⟩
  | case4 visited k pending hk first hload ih =>
    cases pre with
    | nil =>
      obtain ⟨rfl, -⟩ := List.cons.inj h
      exact .inl ⟨k, List.mem_cons_self, hload⟩
    | cons p pre =>
      obtain ⟨rfl, hrest⟩ := List.cons.inj h
      rcases ih hrest with ⟨j, hj, hpart⟩ | ⟨q, hq, hpart⟩
      · rcases List.mem_append.mp hj with hj | hj
        · exact .inr ⟨first, List.mem_cons_self, j, hj, hpart⟩
        · exact .inl ⟨j, List.mem_cons_of_mem k hj, hpart⟩
      · exact .inr ⟨q, List.mem_cons_of_mem first hq, hpart⟩

theorem nodup_of_keyed (hs : s.Keyed) {keys : List EntityKey} {parts : List Entity}
    (h : keys.map s.load = parts.map some) (hkeys : keys.Nodup) : parts.Nodup := by
  have hown : parts.map Entity.key? = keys.map some := calc
    parts.map Entity.key? = (parts.map some).map (Option.bind · Entity.key?) := by simp
    _ = (keys.map s.load).map (Option.bind · Entity.key?) := by rw [h]
    _ = keys.map some := by
      rw [List.map_map]
      refine List.map_congr_left fun k hk => ?_
      have hstored : s.load k ∈ parts.map some := h ▸ List.mem_map_of_mem hk
      obtain ⟨part, -, hload⟩ := List.mem_map.mp hstored
      simpa [← hload] using hs k part hload.symm
  have hnodup : (parts.map Entity.key?).Nodup := hown ▸ hkeys.map (Option.some_injective _)
  exact .of_map _ hnodup

/-- The loop over the parts of a host ends. It finds what is stored under the keys that are reached
from the host without passing the host's own key, each key once, and the parts that the host does not
refer to after a part that does. -/
theorem paragraphs_reached (s : EntityStore) (host : Entity) :
    (∃ rounds visited, (Frontier.round s)^[rounds] (.start host) =
      ⟨visited, [], paragraphs s host⟩) ∧
    (∃ keys, Lists s host.key?.toList (partKeys host) keys (paragraphs s host)) ∧
    (s.Keyed → (paragraphs s host).Nodup) ∧
    ∀ pre part post, paragraphs s host = pre ++ part :: post →
      (∃ k ∈ partKeys host, s.load k = some part) ∨
        ∃ p ∈ pre, ∃ k ∈ partKeys p, s.load k = some part := by
  obtain ⟨keys, hkeys⟩ := exists_lists_walk s host.key?.toList (partKeys host)
  refine ⟨Frontier.exists_rounds s host, ⟨keys, hkeys⟩, ?_, ?_⟩
  · intro hs
    exact nodup_of_keyed hs hkeys.loads hkeys.nodup
  · intro pre part post h
    exact referred_of_walk_eq h

namespace TwoParts

def partKey (n : Int64) : EntityKey := ⟨EntityTypeId.paragraph, .int n⟩

/-- An entity that refers to a part. -/
def holder (type : String) (n part : Int64) : Entity :=
  { Entity.create default type "text" with id := some (.int n), saved := true }.setField
    (.compositeReferenceTo "parts" EntityTypeId.paragraph) [.reference (partKey part) none]

/-- Two parts that refer to each other. -/
def store : EntityStore :=
  ⟨((∅ : OrderedMap EntityKey Entity).insert (partKey 1) (holder EntityTypeId.paragraph 1 2)).insert
    (partKey 2) (holder EntityTypeId.paragraph 2 1), ∅⟩

def page : Entity := holder EntityTypeId.node 1 1

end TwoParts

/-- Two parts that refer to each other are both found, once each. -/
theorem paragraphs_reached_mutual : ∃ keys,
    Lists TwoParts.store TwoParts.page.key?.toList (partKeys TwoParts.page) keys
      (paragraphs TwoParts.store TwoParts.page) ∧
    TwoParts.partKey 1 ∈ keys ∧ TwoParts.partKey 2 ∈ keys ∧
    (paragraphs TwoParts.store TwoParts.page).Nodup := by
  have hkeyed : TwoParts.store.rows.All fun k e => e.key? = some k :=
    (OrderedMap.all_empty.insert (by rfl)).insert (by rfl)
  obtain ⟨-, ⟨keys, hkeys⟩, hnodup, -⟩ := paragraphs_reached TwoParts.store TwoParts.page
  have hfirst : Reached TwoParts.store TwoParts.page.key?.toList (partKeys TwoParts.page)
      (TwoParts.partKey 1) := .here (by decide) (by decide)
  have hsecond : Reached TwoParts.store TwoParts.page.key?.toList (partKeys TwoParts.page)
      (TwoParts.partKey 2) := .under hfirst rfl (by decide) (by decide)
  exact ⟨keys, hkeys, (hkeys.mem_iff _).mpr ⟨hfirst, rfl⟩, (hkeys.mem_iff _).mpr ⟨hsecond, rfl⟩,
    hnodup hkeyed⟩

end Grouping.Media
