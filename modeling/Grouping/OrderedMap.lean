/-! # Maps that remember the order of first insertion

A map is a list of entries with pairwise distinct keys. Giving a present key a new value keeps its
place; erasing closes the gap. The lemmas describe lookup and key order after each operation.
-/

namespace Grouping

structure OrderedMap (κ ν : Type) where
  entries : List (κ × ν)
  keys_nodup : (entries.map Prod.fst).Nodup := by simp
  deriving DecidableEq

namespace OrderedMap

variable {κ ν : Type}

def keys (m : OrderedMap κ ν) : List κ := m.entries.map Prod.fst

def values (m : OrderedMap κ ν) : List ν := m.entries.map Prod.snd

def size (m : OrderedMap κ ν) : Nat := m.entries.length

def empty : OrderedMap κ ν := ⟨[], by simp⟩

instance : EmptyCollection (OrderedMap κ ν) := ⟨empty⟩

instance : Inhabited (OrderedMap κ ν) := ⟨empty⟩

@[ext]
theorem ext {m n : OrderedMap κ ν} (h : m.entries = n.entries) : m = n := by
  cases m
  cases n
  cases h
  rfl

theorem nodup_keys (m : OrderedMap κ ν) : m.keys.Nodup := m.keys_nodup

@[simp]
theorem entries_empty : (∅ : OrderedMap κ ν).entries = [] := rfl

variable [DecidableEq κ]

/-- The entry list after `k` is given the value `v`. -/
def insertEntry (k : κ) (v : ν) : List (κ × ν) → List (κ × ν)
  | [] => [(k, v)]
  | e :: r => if e.1 = k then (k, v) :: r else e :: insertEntry k v r

theorem keys_insertEntry (k : κ) (v : ν) (l : List (κ × ν)) :
    (insertEntry k v l).map Prod.fst =
      if k ∈ l.map Prod.fst then l.map Prod.fst else l.map Prod.fst ++ [k] := by
  induction l with
  | nil => simp [insertEntry]
  | cons e r ih =>
    rw [insertEntry]
    split
    · next h => simp [h]
    · next h =>
      rw [List.map_cons, ih]
      have hk : k ≠ e.1 := fun hk => h hk.symm
      by_cases hr : k ∈ r.map Prod.fst
      · rw [if_pos hr, if_pos (by simp only [List.map_cons, List.mem_cons, hr, or_true]),
          List.map_cons]
      · rw [if_neg hr,
          if_neg (by simp only [List.map_cons, List.mem_cons, hk, hr, or_self, not_false_iff]),
          List.map_cons, List.cons_append]

theorem nodup_insertEntry (k : κ) (v : ν) {l : List (κ × ν)} (h : (l.map Prod.fst).Nodup) :
    ((insertEntry k v l).map Prod.fst).Nodup := by
  rw [keys_insertEntry]
  split
  · exact h
  · next hk => exact List.nodup_append.mpr ⟨h, by simp, by
      intro a ha b hb
      rw [List.mem_singleton] at hb
      rintro rfl
      exact hk (hb ▸ ha)⟩

def insert (m : OrderedMap κ ν) (k : κ) (v : ν) : OrderedMap κ ν :=
  ⟨insertEntry k v m.entries, nodup_insertEntry k v m.keys_nodup⟩

def erase (m : OrderedMap κ ν) (k : κ) : OrderedMap κ ν :=
  ⟨m.entries.filter fun e => e.1 ≠ k, m.keys_nodup.sublist (List.filter_sublist.map _)⟩

/-- The value of the first entry with key `k`. -/
def lookup (k : κ) : List (κ × ν) → Option ν
  | [] => none
  | e :: r => if e.1 = k then some e.2 else lookup k r

def get? (m : OrderedMap κ ν) (k : κ) : Option ν := lookup k m.entries

def contains (m : OrderedMap κ ν) (k : κ) : Bool := (m.get? k).isSome

def getD (m : OrderedMap κ ν) (k : κ) (fallback : ν) : ν := (m.get? k).getD fallback

/-- Inserts the entries from left to right. -/
def ofList (l : List (κ × ν)) : OrderedMap κ ν := l.foldl (fun m e => m.insert e.1 e.2) ∅

theorem lookup_insertEntry (k : κ) (v : ν) (l : List (κ × ν)) (j : κ) :
    lookup j (insertEntry k v l) = if k = j then some v else lookup j l := by
  induction l with
  | nil => rfl
  | cons e r ih =>
    rw [insertEntry]
    by_cases he : e.1 = k
    · rw [if_pos he, lookup, lookup]
      by_cases h : k = j
      · rw [if_pos h, if_pos h]
      · rw [if_neg h, if_neg h, if_neg (he ▸ h)]
    · rw [if_neg he, lookup, lookup, ih]
      by_cases hj : e.1 = j
      · rw [if_pos hj, if_pos hj, if_neg fun h => he (hj.trans h.symm)]
      · rw [if_neg hj, if_neg hj]

theorem lookup_filter_ne (k : κ) (l : List (κ × ν)) (j : κ) :
    lookup j (l.filter fun e => e.1 ≠ k) = if k = j then none else lookup j l := by
  induction l with
  | nil => simp [lookup]
  | cons e r ih =>
    by_cases he : e.1 = k
    · rw [List.filter_cons_of_neg (by simpa using he), ih, lookup]
      by_cases h : k = j
      · rw [if_pos h, if_pos h]
      · rw [if_neg h, if_neg h, if_neg (he ▸ h)]
    · rw [List.filter_cons_of_pos (by simpa using he), lookup, lookup, ih]
      by_cases hj : e.1 = j
      · rw [if_pos hj, if_pos hj, if_neg fun h => he (hj.trans h.symm)]
      · rw [if_neg hj, if_neg hj]

theorem isSome_lookup (k : κ) (l : List (κ × ν)) :
    (lookup k l).isSome = true ↔ k ∈ l.map Prod.fst := by
  induction l with
  | nil => simp [lookup]
  | cons e r ih =>
    rw [lookup, List.map_cons, List.mem_cons]
    by_cases h : e.1 = k
    · simp [h]
    · rw [if_neg h, ih]
      exact ⟨Or.inr, fun hk => hk.resolve_left fun hk => h hk.symm⟩

@[simp]
theorem get?_empty (k : κ) : (∅ : OrderedMap κ ν).get? k = none := rfl

theorem get?_insert (m : OrderedMap κ ν) (k : κ) (v : ν) (j : κ) :
    (m.insert k v).get? j = if k = j then some v else m.get? j :=
  lookup_insertEntry k v m.entries j

theorem get?_erase (m : OrderedMap κ ν) (k j : κ) :
    (m.erase k).get? j = if k = j then none else m.get? j :=
  lookup_filter_ne k m.entries j

theorem keys_insert (m : OrderedMap κ ν) (k : κ) (v : ν) :
    (m.insert k v).keys = if k ∈ m.keys then m.keys else m.keys ++ [k] :=
  keys_insertEntry k v m.entries

theorem contains_iff_mem_keys (m : OrderedMap κ ν) (k : κ) :
    m.contains k = true ↔ k ∈ m.keys :=
  isSome_lookup k m.entries

theorem contains_eq_isSome (m : OrderedMap κ ν) (k : κ) : m.contains k = (m.get? k).isSome := rfl

theorem mem_keys_iff {m : OrderedMap κ ν} {k : κ} : k ∈ m.keys ↔ ∃ v, m.get? k = some v := by
  rw [← m.contains_iff_mem_keys, contains_eq_isSome, Option.isSome_iff_exists]

theorem get?_eq_none_iff {m : OrderedMap κ ν} {k : κ} : m.get? k = none ↔ k ∉ m.keys := by
  rw [mem_keys_iff, Option.eq_none_iff_forall_ne_some, not_exists]

theorem lookup_eq_some_iff {l : List (κ × ν)} (h : (l.map Prod.fst).Nodup) {k : κ} {v : ν} :
    lookup k l = some v ↔ (k, v) ∈ l := by
  induction l with
  | nil => simp [lookup]
  | cons e r ih =>
    rw [List.map_cons, List.nodup_cons] at h
    rw [lookup, List.mem_cons]
    by_cases he : e.1 = k
    · rw [if_pos he]
      constructor
      · intro hv
        exact .inl (Prod.ext he.symm (Option.some.inj hv).symm)
      · rintro (rfl | hr)
        · rfl
        · exact absurd (List.mem_map.mpr ⟨(k, v), hr, he.symm⟩) h.1
    · rw [if_neg he, ih h.2]
      constructor
      · exact .inr
      · rintro (rfl | hr)
        · exact absurd rfl he
        · exact hr

theorem mem_entries_iff {m : OrderedMap κ ν} {k : κ} {v : ν} :
    (k, v) ∈ m.entries ↔ m.get? k = some v :=
  (lookup_eq_some_iff m.keys_nodup).symm

theorem mem_values_iff {m : OrderedMap κ ν} {v : ν} :
    v ∈ m.values ↔ ∃ k, m.get? k = some v := by
  unfold values
  rw [List.mem_map]
  constructor
  · rintro ⟨⟨k, _⟩, he, rfl⟩
    exact ⟨k, mem_entries_iff.mp he⟩
  · rintro ⟨k, hk⟩
    exact ⟨(k, v), mem_entries_iff.mpr hk, rfl⟩

theorem mem_keys_insert {m : OrderedMap κ ν} {k j : κ} {v : ν} :
    j ∈ (m.insert k v).keys ↔ j = k ∨ j ∈ m.keys := by
  rw [mem_keys_iff, mem_keys_iff, get?_insert]
  by_cases h : k = j
  · simp [h]
  · simp [h, Ne.symm h]

theorem mem_keys_foldl_insert {ι : Type} {key : ι → κ} {value : ι → ν} {l : List ι}
    {m : OrderedMap κ ν} {k : κ} :
    k ∈ (l.foldl (fun m i => m.insert (key i) (value i)) m).keys ↔
      (∃ i ∈ l, key i = k) ∨ k ∈ m.keys := by
  induction l generalizing m with
  | nil => simp
  | cons i r ih =>
    rw [List.foldl_cons, ih, mem_keys_insert]
    grind

/-- Of several values that are inserted under one key the last one is found. -/
theorem get?_foldl_insert {ι : Type} (key : ι → κ) (value : ι → ν) (l : List ι)
    (m : OrderedMap κ ν) (k : κ) :
    (l.foldl (fun m i => m.insert (key i) (value i)) m).get? k =
      (((l.filter fun i => key i = k).getLast?).map value).or (m.get? k) := by
  induction l generalizing m with
  | nil => rfl
  | cons i r ih =>
    rw [List.foldl_cons, ih, get?_insert]
    by_cases h : key i = k
    · -- found unless a later one of the list replaces it
      rw [if_pos h, List.filter_cons_of_pos (by simpa using h), List.getLast?_cons]
      cases (r.filter fun i => key i = k).getLast? with
      | none => rfl
      | some j => rfl
    · rw [if_neg h, List.filter_cons_of_neg (by simpa using h)]

theorem get?_ofList (l : List (κ × ν)) (k : κ) :
    (ofList l).get? k = ((l.filter fun e => e.1 = k).getLast?).map Prod.snd := by
  rw [ofList, get?_foldl_insert Prod.fst Prod.snd, get?_empty, Option.or_none]

theorem insertEntry_of_lookup {k : κ} {v : ν} {l : List (κ × ν)} (h : lookup k l = some v) :
    insertEntry k v l = l := by
  induction l with
  | nil => cases h
  | cons e r ih =>
    rw [lookup] at h
    rw [insertEntry]
    split at h
    · next he =>
      cases h
      rw [if_pos he, ← he]
    · next he => rw [if_neg he, ih h]

theorem insert_eq_self_iff {m : OrderedMap κ ν} {k : κ} {v : ν} :
    m.insert k v = m ↔ m.get? k = some v := by
  constructor
  · intro h
    rw [← h, get?_insert, if_pos rfl]
  · intro h
    exact ext (insertEntry_of_lookup h)

theorem entries_insert_of_not_mem {m : OrderedMap κ ν} {k : κ} (h : k ∉ m.keys) (v : ν) :
    (m.insert k v).entries = m.entries ++ [(k, v)] := by
  suffices hl : ∀ l : List (κ × ν), k ∉ l.map Prod.fst → insertEntry k v l = l ++ [(k, v)] from
    hl m.entries h
  intro l hk
  induction l with
  | nil => rfl
  | cons e l ih =>
    rw [List.map_cons, List.mem_cons, not_or] at hk
    rw [insertEntry, if_neg (Ne.symm hk.1), ih hk.2, List.cons_append]

theorem entries_foldl_insert {l : List (κ × ν)} (h : (l.map Prod.fst).Nodup) {m : OrderedMap κ ν}
    (hfree : ∀ e ∈ l, e.1 ∉ m.keys) :
    (l.foldl (fun m e => m.insert e.1 e.2) m).entries = m.entries ++ l := by
  induction l generalizing m with
  | nil => exact (List.append_nil _).symm
  | cons e l ih =>
    obtain ⟨he, hl⟩ := List.nodup_cons.mp h
    obtain ⟨hfreee, hfree⟩ := List.forall_mem_cons.mp hfree
    rw [List.foldl_cons, ih hl, entries_insert_of_not_mem hfreee, List.append_assoc]
    · rfl
    · intro x hx hmem
      rcases mem_keys_insert.mp hmem with hxe | hmem
      · exact he (hxe ▸ List.mem_map_of_mem hx)
      · exact hfree x hx hmem

theorem ofList_of_nodup {l : List (κ × ν)} (h : (l.map Prod.fst).Nodup) : ofList l = ⟨l, h⟩ :=
  ext (entries_foldl_insert h fun _ _ => List.not_mem_nil)

theorem keys_erase (m : OrderedMap κ ν) (k : κ) :
    (m.erase k).keys = m.keys.filter fun j => j ≠ k := by
  unfold keys erase
  rw [List.filter_map]
  rfl

theorem mem_keys_erase {m : OrderedMap κ ν} {k j : κ} :
    j ∈ (m.erase k).keys ↔ j ∈ m.keys ∧ j ≠ k := by
  rw [keys_erase, List.mem_filter, decide_eq_true_eq]

/-- The values are found by looking up the keys in order. -/
theorem values_eq_filterMap (m : OrderedMap κ ν) : m.values = m.keys.filterMap m.get? := by
  have h : ∀ l : List (κ × ν), (∀ e ∈ l, m.get? e.1 = some e.2) →
      l.map Prod.snd = (l.map Prod.fst).filterMap m.get? := by
    intro l hl
    induction l with
    | nil => rfl
    | cons e r ih =>
      rw [List.map_cons, List.map_cons, List.filterMap_cons_some (hl e List.mem_cons_self),
        ih fun e he => hl e (List.mem_cons_of_mem _ he)]
  exact h m.entries fun e he => mem_entries_iff.mp he

/-- A map is determined by the order of its keys and by what is found under them. -/
theorem ext_keys {m n : OrderedMap κ ν} (hkeys : m.keys = n.keys) (hget : ∀ k, m.get? k = n.get? k) :
    m = n := by
  have hvalues : m.values = n.values := by
    rw [values_eq_filterMap, values_eq_filterMap, hkeys, funext hget]
  exact ext ((List.zip_of_prod hkeys hvalues).trans (List.zip_of_prod rfl rfl).symm)

end OrderedMap

end Grouping
