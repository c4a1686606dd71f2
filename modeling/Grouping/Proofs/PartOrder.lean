import Grouping.Proofs.PartReach

/-! # The order in which parts are found

The loop over the parts of a host finds them in the order of a recursive traversal, which lists a part,
then everything under it, and only then turns to the next key beside it. The keys under a part are the
targets of the items in its fields, both in order. The stack of the loop holds what is left to do in the
calls that are open.
-/

namespace Grouping.Media

variable {s : EntityStore} {visited pending : List EntityKey}

/-! ## Targets of fields -/

/-- The targets of the items that are references, item by item. -/
def itemTargets : List FieldItem → List EntityKey
  | [] => []
  | .reference k _ :: items => k :: itemTargets items
  | .text .. :: items => itemTargets items
  | .plain _ :: items => itemTargets items

/-- The targets in those fields that are of a kind and refer to a type, field by field. -/
def fieldTargets (kind : FieldKind) (type : String) : List Field → List EntityKey
  | [] => []
  | f :: fields =>
    if f.definition.kind = kind ∧ f.definition.targetType = some type then
      itemTargets f.items ++ fieldTargets kind type fields
    else fieldTargets kind type fields

theorem targetKeys_eq_itemTargets (definition : FieldDefinition) (items : List FieldItem) :
    Field.targetKeys ⟨definition, items⟩ = itemTargets items := by
  unfold Field.targetKeys
  induction items with
  | nil => rfl
  | cons item items ih =>
    cases item with
    | reference k revision => exact congrArg (k :: ·) ih
    | text body summary format => exact ih
    | plain v => exact ih

theorem referredKeys_eq_fieldTargets (kind : FieldKind) (type : String) (e : Entity) :
    referredKeys kind type e = fieldTargets kind type e.fieldList := by
  unfold referredKeys
  induction e.fieldList with
  | nil => rfl
  | cons f fields ih =>
    rw [fieldTargets, ← ih, ← targetKeys_eq_itemTargets f.definition]
    by_cases hf : f.definition.kind = kind ∧ f.definition.targetType = some type
    · rw [if_pos hf, List.filter_cons_of_pos (by simpa [FieldDefinition.targets] using hf),
        List.flatMap_cons]
    · rw [if_neg hf, List.filter_cons_of_neg (by simpa [FieldDefinition.targets] using hf)]

/-- The keys of the parts that an entity refers to. -/
def childKeys (e : Entity) : List EntityKey :=
  fieldTargets .compositeReference EntityTypeId.paragraph e.fieldList

/-- The stored media that the fields of an entity refer to. -/
def fieldMedia (s : EntityStore) (e : Entity) : List Entity :=
  (fieldTargets .reference EntityTypeId.media e.fieldList).filterMap s.load

theorem partKeys_eq_childKeys (e : Entity) : partKeys e = childKeys e :=
  referredKeys_eq_fieldTargets ..

theorem referred_eq_fieldMedia (s : EntityStore) (e : Entity) : referred s e = fieldMedia s e := by
  unfold referred fieldMedia
  rw [referredKeys_eq_fieldTargets]

/-! ## The traversal -/

theorem unvisited_le_of_subset {visited' : List EntityKey} (h : visited ⊆ visited') :
    unvisited s visited' ≤ unvisited s visited := by
  refine (List.monotone_filter_right _ fun k hk => ?_).length_le
  simp only [decide_eq_true_eq] at hk ⊢
  exact fun hv => hk (h hv)

/-- What a traversal finds, and the keys that it has visited then. -/
structure Descent (visited : List EntityKey) where
  found : List Entity
  visited' : List EntityKey
  subset : visited ⊆ visited'

/-- Goes through the keys in order. A key that was not visited and has something stored under it gives
that and what is under it. -/
def descend (s : EntityStore) (visited : List EntityKey) : List EntityKey → Descent visited
  | [] => ⟨[], visited, List.Subset.refl _⟩
  | k :: siblings =>
    if _hk : k ∈ visited then descend s visited siblings
    else
      match _hload : s.load k with
      | none =>
        let after := descend s (k :: visited) siblings
        ⟨after.found, after.visited', fun _ hj => after.subset (List.mem_cons_of_mem k hj)⟩
      | some part =>
        let below := descend s (k :: visited) (childKeys part)
        let after := descend s below.visited' siblings
        ⟨part :: (below.found ++ after.found), after.visited', fun _ hj =>
          after.subset (below.subset (List.mem_cons_of_mem k hj))⟩
termination_by keys => (unvisited s visited, keys.length)
decreasing_by
  · exact Prod.Lex.right _ (Nat.lt_succ_self _)
  · rcases Nat.lt_or_eq_of_le (unvisited_cons_le s visited k) with hlt | heq
    · exact Prod.Lex.left _ _ hlt
    · rw [heq]
      exact Prod.Lex.right _ (Nat.lt_succ_self _)
  · exact Prod.Lex.left _ _ (unvisited_cons_lt _hk _hload)
  · exact Prod.Lex.left _ _
      ((unvisited_le_of_subset below.subset).trans_lt (unvisited_cons_lt _hk _hload))

def preorder (s : EntityStore) (host : Entity) : List Entity :=
  (descend s host.key?.toList (childKeys host)).found

theorem walk_of_missing {k : EntityKey} (hk : k ∉ visited) (hload : s.load k = none) :
    walk s visited (k :: pending) = walk s (k :: visited) pending := by
  rw [walk, if_neg hk]
  split
  · rfl
  · simp_all

theorem walk_of_stored {k : EntityKey} {part : Entity} (hk : k ∉ visited)
    (hload : s.load k = some part) :
    walk s visited (k :: pending) = part :: walk s (k :: visited) (childKeys part ++ pending) := by
  rw [walk, if_neg hk, ← partKeys_eq_childKeys]
  split
  · simp_all
  · simp_all

/-- The walk does the keys at the top of its stack as the traversal does them, then goes on with what
is below. -/
theorem walk_append (s : EntityStore) (visited keys pending : List EntityKey) :
    walk s visited (keys ++ pending) =
      (descend s visited keys).found ++ walk s (descend s visited keys).visited' pending := by
  fun_induction descend s visited keys generalizing pending with
  | case1 visited => rfl
  | case2 visited k siblings hk ih =>
    rw [List.cons_append, walk, if_pos hk, ih]
  | case3 visited k siblings hk hload after ih =>
    rw [List.cons_append, walk_of_missing hk hload, ih]
  | case4 visited k siblings hk part hload below after ihb iha =>
    calc walk s visited (k :: siblings ++ pending)
        = part :: walk s (k :: visited) (childKeys part ++ (siblings ++ pending)) :=
          walk_of_stored hk hload
      _ = part :: (below.found ++ walk s below.visited' (siblings ++ pending)) := by rw [ihb]
      _ = part :: (below.found ++ (after.found ++ walk s after.visited' pending)) := by rw [iha]
      _ = part :: (below.found ++ after.found) ++ walk s after.visited' pending := by simp

theorem paragraphs_eq_preorder (s : EntityStore) (host : Entity) :
    paragraphs s host = preorder s host := by
  have h := walk_append s host.key?.toList (childKeys host) []
  rw [List.append_nil, walk, List.append_nil] at h
  rw [paragraphs, partKeys_eq_childKeys]
  exact h

/-- The loop over the parts of a host ends with the parts in preorder. The media of parts are those
that these parts refer to, part by part. -/
theorem stack_finds_preorder (s : EntityStore) (host : Entity) :
    (∃ rounds visited, (Frontier.round s)^[rounds] (.start host) =
      ⟨visited, [], preorder s host⟩) ∧
    paragraphs s host = preorder s host ∧
    ∀ h, paragraphsFinder.search s h host = ((preorder s host).flatMap (fieldMedia s), h) := by
  have hpreorder := paragraphs_eq_preorder s host
  refine ⟨hpreorder ▸ Frontier.exists_rounds s host, hpreorder, fun h => ?_⟩
  rw [← hpreorder, ← funext (referred_eq_fieldMedia s)]
  rfl

/-! ## An album -/

/-- The traversal of the keys finds the entities and ends with these keys visited. -/
def Descends (s : EntityStore) (visited keys : List EntityKey) (found : List Entity)
    (visited' : List EntityKey) : Prop :=
  (descend s visited keys).found = found ∧ (descend s visited keys).visited' = visited'

theorem descends_nil : Descends s visited [] [] visited := by
  unfold Descends
  rw [descend]
  exact ⟨rfl, rfl⟩

theorem Descends.seen {k : EntityKey} {keys visited' : List EntityKey} {found : List Entity}
    (h : Descends s visited keys found visited') (hk : k ∈ visited) :
    Descends s visited (k :: keys) found visited' := by
  unfold Descends
  rw [descend, dif_pos hk]
  exact h

theorem Descends.missing {k : EntityKey} {keys visited' : List EntityKey} {found : List Entity}
    (h : Descends s (k :: visited) keys found visited') (hk : k ∉ visited) (hload : s.load k = none) :
    Descends s visited (k :: keys) found visited' := by
  unfold Descends
  rw [descend, dif_neg hk]
  split
  · exact h
  · simp_all

theorem Descends.stored {k : EntityKey} {part : Entity} {keys visited' visited'' : List EntityKey}
    {below after : List Entity} (hk : k ∉ visited) (hload : s.load k = some part)
    (hbelow : Descends s (k :: visited) (childKeys part) below visited')
    (hafter : Descends s visited' keys after visited'') :
    Descends s visited (k :: keys) (part :: (below ++ after)) visited'' := by
  obtain ⟨rfl, rfl⟩ := hbelow
  obtain ⟨rfl, rfl⟩ := hafter
  unfold Descends
  rw [descend, dif_neg hk]
  split
  · simp_all
  · next part' hload' =>
    rw [hload] at hload'
    cases hload'
    exact ⟨rfl, rfl⟩

theorem Descends.leaf {k : EntityKey} {part : Entity} {keys visited' : List EntityKey}
    {after : List Entity} (hk : k ∉ visited) (hload : s.load k = some part)
    (hno : childKeys part = []) (hafter : Descends s (k :: visited) keys after visited') :
    Descends s visited (k :: keys) (part :: after) visited' := by
  have hbelow : Descends s (k :: visited) (childKeys part) [] (k :: visited) := by
    rw [hno]
    exact descends_nil
  exact .stored hk hload hbelow hafter

namespace Album

def partItem (n : Int64) : FieldItem := .reference ⟨EntityTypeId.paragraph, .int n⟩ none

def imageItem (n : Int64) : FieldItem := .reference ⟨EntityTypeId.media, .int n⟩ none

def entity (type : String) (n : Int64) (fields : List Field) : Entity :=
  let e := { Entity.create default type type with id := some (.int n), saved := true }
  fields.foldl (fun e f => e.setField f.definition f.items) e

def parts (name : String) (items : List FieldItem) : Field :=
  ⟨.compositeReferenceTo name EntityTypeId.paragraph, items⟩

def images (items : List FieldItem) : Field := ⟨.referenceTo "images" EntityTypeId.media, items⟩

def part (n : Int64) (fields : List Field) : Entity := entity EntityTypeId.paragraph n fields

def first : Entity := part 1 [parts "parts" [partItem 3], images [imageItem 2]]

/-- The second part refers to itself, and to an image twice. -/
def second : Entity :=
  part 2 [images [imageItem 1, imageItem 9, imageItem 1], parts "parts" [partItem 1, partItem 2]]

def third : Entity := part 3 [parts "parts" [partItem 2, partItem 4]]

def image (n : Int64) : Entity := entity EntityTypeId.media n []

def store : EntityStore :=
  let es := [first, second, third, part 4 [], part 5 [], part 6 [], image 1, image 2]
  ⟨es.foldl (fun m e => m.insert ⟨e.type, e.id.getD (.int 0)⟩ e) ∅, ∅⟩

/-- A page with parts in two fields, and two fields between them that do not have parts. -/
def page : Entity :=
  entity EntityTypeId.node 1
    [parts "intro" [partItem 1, .text "and" none none, partItem 9, partItem 2],
      ⟨.referenceTo "related" EntityTypeId.paragraph, [partItem 6]⟩,
      ⟨.compositeReferenceTo "see" EntityTypeId.node, [partItem 6]⟩,
      parts "body" [partItem 4, partItem 5]]

def partKey (n : Int64) : EntityKey := ⟨EntityTypeId.paragraph, .int n⟩

/-- The page and some parts have been visited. -/
def seen (parts : List Int64) : List EntityKey := parts.map partKey ++ [⟨EntityTypeId.node, .int 1⟩]

theorem preorder_page : preorder store page = [first, third, second, part 4 [], part 5 []] := by
  -- the second and the fourth part come under the third one, before their turn in the page
  have hsecond : Descends store (seen [2, 3, 1]) (childKeys second) [] (seen [2, 3, 1]) :=
    .seen (.seen descends_nil (by decide)) (by decide)
  have hfourth : Descends store (seen [2, 3, 1]) [partKey 4] [part 4 []] (seen [4, 2, 3, 1]) :=
    .leaf (by decide) rfl rfl descends_nil
  have hthird : Descends store (seen [3, 1]) (childKeys third) [second, part 4 []]
      (seen [4, 2, 3, 1]) := .stored (by decide) rfl hsecond hfourth
  have hfirst : Descends store (seen [1]) (childKeys first) [third, second, part 4 []]
      (seen [4, 2, 3, 1]) := .stored (by decide) rfl hthird descends_nil
  have hfifth : Descends store (seen [9, 4, 2, 3, 1]) [partKey 5] [part 5 []]
      (seen [5, 9, 4, 2, 3, 1]) := .leaf (by decide) rfl rfl descends_nil
  have hrest : Descends store (seen [4, 2, 3, 1]) [partKey 9, partKey 2, partKey 4, partKey 5]
      [part 5 []] (seen [5, 9, 4, 2, 3, 1]) :=
    .missing (.seen (.seen hfifth (by decide)) (by decide)) (by decide) rfl
  have hpage : Descends store (seen []) (childKeys page) [first, third, second, part 4 [], part 5 []]
      (seen [5, 9, 4, 2, 3, 1]) := .stored (by decide) rfl hfirst hrest
  exact hpage.1

end Album

/-- The parts of the page and their images, in the order of the traversal. -/
theorem stack_finds_preorder_album :
    paragraphs Album.store Album.page =
      [Album.first, Album.third, Album.second, Album.part 4 [], Album.part 5 []] ∧
    ∀ h, paragraphsFinder.search Album.store h Album.page =
      ([Album.image 2, Album.image 1, Album.image 1], h) := by
  obtain ⟨-, hfound, hmedia⟩ := stack_finds_preorder Album.store Album.page
  rw [Album.preorder_page] at hfound hmedia
  refine ⟨hfound, fun h => (hmedia h).trans ?_⟩
  have himages : [Album.first, Album.third, Album.second, Album.part 4 [], Album.part 5 []].flatMap
      (fieldMedia Album.store) = [Album.image 2, Album.image 1, Album.image 1] := by
    decide +kernel
  rw [himages]

end Grouping.Media
