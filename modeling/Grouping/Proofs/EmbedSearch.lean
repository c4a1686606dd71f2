import Grouping.Proofs.Reattachment

/-! # Which embedded media are found

The search for embeds finds the media that the inclusion hook allows at one embed at least. Each one
stands once in the result, at its first allowed embed: an embed that the hook forbids does not spend the
media entity.
-/

namespace Grouping

namespace EntityStore

variable {s : EntityStore} {type : String} {uuid : Uuid} {m m' : Entity}

/-- The entity stands in the store under its own key. -/
def Holds (s : EntityStore) (m : Entity) : Prop := ∃ k, m.key? = some k ∧ s.load k = some m

theorem holds_of_loadByUuid (hs : s.Keyed) (h : s.loadByUuid type uuid = some m) : s.Holds m := by
  obtain ⟨⟨k, e⟩, hrow, rfl⟩ := List.mem_map.mp (List.mem_of_find?_eq_some h)
  have hload : s.load k = some e := OrderedMap.mem_entries_iff.mp (List.mem_filter.mp hrow).1
  exact ⟨k, hs k e hload, hload⟩

theorem Holds.eq_of_key? (h : s.Holds m) (h' : s.Holds m') (hkey : m.key? = m'.key?) : m = m' := by
  obtain ⟨k, hk, hload⟩ := h
  obtain ⟨k', hk', hload'⟩ := h'
  cases hk.symm.trans (hkey.trans hk')
  exact Option.some.inj (hload.symm.trans hload')

end EntityStore

namespace Media.Embed

variable {read : String → List String} {s : EntityStore} {h : Hooks} {host m : Entity}
  {found : List EntityKey} {l : List Occurrence} {o : Occurrence}

/-- A formatted text of the field embeds the media entity. -/
def Embeds (read : String → List String) (s : EntityStore) (f : Field) (m : Entity) : Prop :=
  f.definition.kind.isFormattedText = true ∧ ∃ item ∈ f.items, ∃ text,
    itemText f.definition.kind item = some text ∧ ∃ u ∈ read text, ∃ uuid,
      Uuid.parse? u = some uuid ∧ s.loadByUuid EntityTypeId.media uuid = some m

def allows (h : Hooks) (host : Entity) (o : Occurrence) : Bool := (h.shouldInclude o.1 host o.2).1

/-- The media at the embeds that the hook allows, in field, item and document order. -/
def allowed (read : String → List String) (s : EntityStore) (h : Hooks) (host : Entity) :
    List Entity :=
  ((occurrences read s host).filter (allows h host)).map Prod.fst

theorem mem_fieldTexts_iff {f : Field} {text : String} : text ∈ fieldTexts f ↔
    f.definition.kind.isFormattedText = true ∧ ∃ item ∈ f.items,
      itemText f.definition.kind item = some text := by
  unfold fieldTexts
  split
  · next hkind => simp [hkind, List.mem_filterMap]
  · next hkind => simp [hkind]

theorem mem_embedded_iff {text : String} : m ∈ embedded read s text ↔
    ∃ u ∈ read text, ∃ uuid, Uuid.parse? u = some uuid ∧
      s.loadByUuid EntityTypeId.media uuid = some m := by
  simp only [embedded, List.mem_filterMap, Option.bind_eq_some_iff]

theorem mem_occurrences_iff : o ∈ occurrences read s host ↔
    ∃ f ∈ host.fieldList, Embeds read s f o.1 ∧ f.definition.name = o.2 := by
  simp only [occurrences, List.mem_flatMap, List.mem_map]
  constructor
  · rintro ⟨f, hf, text, htext, m, hm, rfl⟩
    obtain ⟨hkind, item, hitem, htext⟩ := mem_fieldTexts_iff.mp htext
    exact ⟨f, hf, ⟨hkind, item, hitem, text, htext, mem_embedded_iff.mp hm⟩, rfl⟩
  · rintro ⟨f, hf, ⟨hkind, item, hitem, text, htext, hm⟩, hname⟩
    have htext := mem_fieldTexts_iff.mpr ⟨hkind, item, hitem, htext⟩
    exact ⟨f, hf, text, htext, o.1, mem_embedded_iff.mpr hm, by rw [hname]⟩

theorem holds_of_mem_occurrences (hs : s.Keyed) (ho : o ∈ occurrences read s host) :
    s.Holds o.1 := by
  obtain ⟨f, -, ⟨-, _, -, _, -, _, -, uuid, -, hload⟩, -⟩ := mem_occurrences_iff.mp ho
  exact EntityStore.holds_of_loadByUuid hs hload

theorem mem_allowed_iff : m ∈ allowed read s h host ↔
    ∃ f ∈ host.fieldList, Embeds read s f m ∧ allows h host (m, f.definition.name) = true := by
  unfold allowed
  constructor
  · intro hm
    obtain ⟨o, ho, rfl⟩ := List.mem_map.mp hm
    obtain ⟨ho, hallows⟩ := List.mem_filter.mp ho
    obtain ⟨f, hf, hembeds, hname⟩ := mem_occurrences_iff.mp ho
    exact ⟨f, hf, hembeds, hname ▸ hallows⟩
  · rintro ⟨f, hf, hembeds, hallows⟩
    have ho : (m, f.definition.name) ∈ occurrences read s host :=
      mem_occurrences_iff.mpr ⟨f, hf, hembeds, rfl⟩
    exact List.mem_map.mpr ⟨_, List.mem_filter.mpr ⟨ho, hallows⟩, rfl⟩

theorem keep_cons (hp : h.inclusion.IsPlain) (found : List EntityKey) (l : List Occurrence)
    {k : EntityKey} (hk : o.1.key? = some k) : (keep host found h (o :: l)).1 =
      if allows h host o = true ∧ k ∉ found then o.1 :: (keep host (k :: found) h l).1
      else (keep host found h l).1 := by
  obtain ⟨m, field⟩ := o
  have hsame := Hooks.shouldInclude_of_isPlain hp m host field
  rw [keep, allows]
  dsimp only
  rcases hasked : h.shouldInclude m host field with ⟨answer, h'⟩
  rw [hasked] at hsame
  obtain rfl : h' = h := hsame
  cases answer with
  | false => simp
  | true =>
    rw [hk]
    by_cases hfound : k ∈ found
    · simp [hfound]
    · simp [hfound]

/-- The keys that were found stand for their media, so that what is kept are the allowed media, each
at its first occurrence, without those found before. -/
theorem keep_eq (hp : h.inclusion.IsPlain) (found : List EntityKey) {l : List Occurrence}
    (hl : ∀ o ∈ l, s.Holds o.1) : (keep host found h l).1 =
      (distinct ((l.filter (allows h host)).map Prod.fst)).filter (·.key? ∉ found.map some) := by
  induction l generalizing found with
  | nil => rfl
  | cons o l ih =>
    obtain ⟨ho, hl⟩ := List.forall_mem_cons.mp hl
    obtain ⟨k, hk, -⟩ := id ho
    rw [keep_cons hp found l hk]
    by_cases hallows : allows h host o = true
    · -- a later media entity with the key is the same entity, as both are stored under it
      have hkey : ∀ x ∈ distinct ((l.filter (allows h host)).map Prod.fst),
          x = o.1 ↔ x.key? = some k := by
        intro x hx
        obtain ⟨o', ho', rfl⟩ := List.mem_map.mp (mem_distinct.mp hx)
        have hx := hl o' (List.mem_filter.mp ho').1
        exact ⟨fun hxo => hxo ▸ hk, fun hxk => hx.eq_of_key? ho (hxk.trans hk.symm)⟩
      rw [List.filter_cons_of_pos hallows, List.map_cons, distinct]
      by_cases hfound : k ∈ found
      · rw [if_neg (by simp [hfound]), ih found hl, List.filter_cons_of_neg (by simp [hk, hfound]),
          List.filter_filter]
        refine List.filter_congr fun x hx => ?_
        have hne : x.key? ∉ found.map some → x ≠ o.1 := by
          rintro hnew rfl
          exact hnew (hk ▸ List.mem_map_of_mem hfound)
        simpa using hne
      · rw [if_pos ⟨hallows, hfound⟩, ih (k :: found) hl,
          List.filter_cons_of_pos (by simp [hk, hfound]), List.filter_filter]
        refine congrArg (o.1 :: ·) (List.filter_congr fun x hx => ?_)
        simp [hkey x hx, Bool.and_comm]
    · rw [if_neg fun hnew => hallows hnew.1, List.filter_cons_of_neg hallows, ih found hl]

theorem holds_of_mem_allowed (hs : s.Keyed) (hm : m ∈ allowed read s h host) : s.Holds m := by
  obtain ⟨o, ho, rfl⟩ := List.mem_map.mp hm
  exact holds_of_mem_occurrences hs (List.mem_filter.mp ho).1

theorem search_eq (read : String → List String) (host : Entity) (hs : s.Keyed)
    (hp : h.inclusion.IsPlain) : search read s h host = (distinct (allowed read s h host), h) := by
  refine Prod.ext ?_ (keep_of_isPlain hp host [] _)
  refine (keep_eq hp [] fun o ho => holds_of_mem_occurrences hs ho).trans ?_
  exact List.filter_eq_self.mpr fun m _ => decide_eq_true List.not_mem_nil

/-- The search for embeds finds the media that the hook allows in some field that embeds them. None is
found twice, and they are in the order of their first allowed embeds. -/
theorem finder_finds_allowed (id label element : String) (s : EntityStore) (h : Hooks)
    (host : Entity) (hs : s.Keyed) (hp : h.inclusion.IsPlain) :
    ∃ found, (finder id label element).search s h host = (found, h) ∧
      (∀ m, m ∈ found ↔ ∃ f ∈ host.fieldList, Embeds (uuidTexts element) s f m ∧
        (h.shouldInclude m host f.definition.name).1 = true) ∧
      (found.map Entity.key?).Nodup ∧
      found.Pairwise fun m m' => (allowed (uuidTexts element) s h host).idxOf m <
        (allowed (uuidTexts element) s h host).idxOf m' := by
  have hfound := search_eq (uuidTexts element) host hs hp
  have hholds : ∀ m ∈ distinct (allowed (uuidTexts element) s h host), s.Holds m :=
    fun m hm => holds_of_mem_allowed hs (mem_distinct.mp hm)
  refine ⟨_, hfound, fun m => mem_distinct.trans mem_allowed_iff, ?_, pairwise_idxOf_distinct _⟩
  refine List.Nodup.map_on (fun m hm m' hm' hkey => ?_) (nodup_distinct _)
  exact (hholds m hm).eq_of_key? (hholds m' hm') hkey

namespace Teaser

def image : Entity :=
  { Entity.create (.ofNat 1) EntityTypeId.media "image" with id := some (.int 1), saved := true }

def store : EntityStore :=
  ⟨(∅ : OrderedMap EntityKey Entity).insert ⟨EntityTypeId.media, .int 1⟩ image, ∅⟩

/-- Images are kept out of teasers. -/
def hooks : Hooks where
  inclusion := [(none, .plain fun q b => if q.field = "teaser" then b.deny else b)]

def embed : String :=
  "<drupal-media data-entity-type=\"media\" data-entity-uuid=\"" ++ (Uuid.ofNat 1).text ++
    "\"></drupal-media>"

def field (name : String) : Field := ⟨{ name, kind := .text }, [.text embed none none]⟩

/-- The teaser and the body embed the same image. -/
def page : Entity :=
  ["teaser", "body"].foldl (fun e name => e.setField (field name).definition (field name).items)
    (Entity.create (.ofNat 0) EntityTypeId.node "page")

end Teaser

/-- The image that is kept out of the teaser is found in the body. -/
theorem finder_finds_inBody : ∃ found,
    mediaEmbedFinder.search Teaser.store Teaser.hooks Teaser.page = (found, Teaser.hooks) ∧
      (Teaser.hooks.shouldInclude Teaser.image Teaser.page "teaser").1 = false ∧
      Teaser.image ∈ found ∧ (found.map Entity.key?).Nodup := by
  have hkeyed : Teaser.store.rows.All fun k e => e.key? = some k :=
    OrderedMap.all_empty.insert (by rfl)
  have hplain : Teaser.hooks.inclusion.IsPlain := by
    intro r hr a b
    obtain rfl := List.mem_singleton.mp hr
    exact ⟨rfl, rfl⟩
  have hread : (Uuid.ofNat 1).text ∈ uuidTexts mediaElement Teaser.embed := by decide +kernel
  have hembeds :
      Embeds (uuidTexts mediaElement) Teaser.store (Teaser.field "body") Teaser.image :=
    ⟨rfl, _, List.mem_singleton.mpr rfl, Teaser.embed, by decide +kernel, _, hread, .ofNat 1,
      by decide +kernel, by decide +kernel⟩
  obtain ⟨found, hfound, hmem, hnodup, -⟩ := finder_finds_allowed mediaEmbedFinder.id
    mediaEmbedFinder.label mediaElement _ _ Teaser.page hkeyed hplain
  refine ⟨found, hfound, by decide +kernel, ?_, hnodup⟩
  exact (hmem _).mpr ⟨Teaser.field "body", by decide +kernel, hembeds, by decide +kernel⟩

end Media.Embed

end Grouping
