import Grouping.Proofs.EmbedSearch

/-! # Embeds in summaries

In a field with summaries the body of an item is searched together with its summary, but an item with
an empty body is passed over. So an embed in a summary is lost if the body beside it is empty, unless
another text embeds the same media entity.
-/

namespace Grouping

theorem Hook.isPlain_of_nil {α β : Type} {h : Hook α β} (hnone : h = []) : h.IsPlain := by
  rw [hnone]
  exact nofun

namespace FinderList

variable {l : FinderList} {s : EntityStore} {h : Hooks} {e m : Entity}

/-- Finders that change no hooks find together what any of those that apply finds. -/
theorem mem_process_iff (hl : ∀ f ∈ l, f.search.Quiet) (hp : h.inclusion.IsPlain) :
    m ∈ (l.process s h e).1 ↔ ∃ f ∈ l, f.applies e = true ∧ m ∈ (f.search s h e).1 := by
  induction l with
  | nil => simp [process]
  | cons f l ih =>
    obtain ⟨hf, hl⟩ := List.forall_mem_cons.mp hl
    have hsame := hf s h e hp
    rw [List.exists_mem_cons_iff, ← ih hl, process]
    by_cases happlies : f.applies e = true
    · rw [if_pos happlies]
      rcases hfound : f.search s h e with ⟨found, h'⟩
      rw [hfound] at hsame
      obtain rfl : h' = h := hsame
      simp [happlies]
    · rw [if_neg happlies]
      simp [happlies]

end FinderList

namespace Media.Embed

variable {read : String → List String} {s : EntityStore} {h : Hooks} {host m : Entity} {f : Field}
  {body : String} {summary format : Option String}

theorem allows_of_nil (hnone : h.inclusion = []) (host : Entity) (o : Occurrence) :
    allows h host o = true := by
  unfold allows Hooks.shouldInclude
  rw [hnone]
  rfl

theorem mem_search_iff (hs : s.Keyed) (hnone : h.inclusion = []) :
    m ∈ (search read s h host).1 ↔ ∃ f ∈ host.fieldList, Embeds read s f m := by
  rw [search_eq read host hs (Hook.isPlain_of_nil hnone), mem_distinct, mem_allowed_iff]
  simp only [allows_of_nil hnone, and_true]

theorem itemText_summaryText_eq_some (hbody : body ≠ "") :
    itemText .summaryText (.text body summary format) = some (body ++ summary.getD "") := by
  simp [itemText, hbody]

/-- What stands in the body or the summary of an item is embedded, if there is a body. -/
theorem embeds_of_item (hkind : f.definition.kind = .summaryText)
    (hitem : .text body summary format ∈ f.items) (hbody : body ≠ "")
    (hm : m ∈ embedded read s (body ++ summary.getD "")) : Embeds read s f m := by
  obtain ⟨u, hu, uuid, huuid, hload⟩ := mem_embedded_iff.mp hm
  refine ⟨by rw [hkind]; rfl, _, hitem, _, ?_, u, hu, uuid, huuid, hload⟩
  rw [hkind]
  exact itemText_summaryText_eq_some hbody

/-- What the body of an item and its summary embed is lost exactly if the body is empty and none of the
searched texts embeds it. What the search finds, the standard finders find. -/
theorem embed_lost_iff (id label element : String) (s : EntityStore) (h : Hooks) (host : Entity)
    (hs : s.Keyed) (hnone : h.inclusion = []) :
    ∃ found, (finder id label element).search s h host = (found, h) ∧
      (∀ f ∈ host.fieldList, f.definition.kind = .summaryText →
        ∀ body summary format, .text body summary format ∈ f.items →
          ∀ u ∈ uuidTexts element (body ++ summary.getD ""), ∀ uuid, Uuid.parse? u = some uuid →
            ∀ m, s.loadByUuid EntityTypeId.media uuid = some m →
              (m ∉ found ↔
                body = "" ∧ ∀ f' ∈ host.fieldList, ¬ Embeds (uuidTexts element) s f' m)) ∧
      (host.fieldable = true → finder id label element ∈ FinderList.standard →
        ∀ m ∈ found, m ∈ (FinderList.standard.process s h host).1) := by
  have hp := Hook.isPlain_of_nil hnone
  refine ⟨_, Prod.ext rfl (quiet_finder id label element s h host hp), ?_, ?_⟩
  · intro f hf hkind body summary format hitem u hu uuid huuid m hload
    have hfound : m ∈ ((finder id label element).search s h host).1 ↔
        ∃ f' ∈ host.fieldList, Embeds (uuidTexts element) s f' m := mem_search_iff hs hnone
    rw [hfound]
    constructor
    · intro hlost
      refine ⟨?_, fun f' hf' hembeds => hlost ⟨f', hf', hembeds⟩⟩
      by_contra hbody
      have hm := mem_embedded_iff.mpr ⟨u, hu, uuid, huuid, hload⟩
      exact hlost ⟨f, hf, embeds_of_item hkind hitem hbody hm⟩
    · rintro ⟨-, hnowhere⟩ ⟨f', hf', hembeds⟩
      exact hnowhere f' hf' hembeds
  · intro hfieldable hstandard m hm
    exact (FinderList.mem_process_iff FinderList.quiet_standard hp).mpr
      ⟨_, hstandard, hfieldable, hm⟩

namespace Teaser

/-- A page whose summary embeds the image. -/
def summarized (body : String) : Entity :=
  (Entity.create (.ofNat 0) EntityTypeId.node "page").setField
    { name := "body", kind := .summaryText } [.text body (some embed) none]

theorem keyed_store : store.Keyed := OrderedMap.all_empty.insert rfl

end Teaser

/-- Beside a body, the image in the summary is found. -/
theorem embed_found_beside_body :
    Teaser.image ∈ (mediaEmbedFinder.search Teaser.store {} (Teaser.summarized "Intro")).1 ∧
      Teaser.image ∈
        (FinderList.standard.process Teaser.store {} (Teaser.summarized "Intro")).1 := by
  have hmedia :
      finder mediaEmbedFinder.id mediaEmbedFinder.label mediaElement = mediaEmbedFinder := rfl
  obtain ⟨found, hfound, hlost, hstandard⟩ := embed_lost_iff mediaEmbedFinder.id
    mediaEmbedFinder.label mediaElement Teaser.store {} (Teaser.summarized "Intro")
    Teaser.keyed_store rfl
  rw [hmedia] at hfound hstandard
  have hread : (Uuid.ofNat 1).text ∈ uuidTexts mediaElement ("Intro" ++ Teaser.embed) := by
    decide +kernel
  have himage : Teaser.image ∈ found := by
    by_contra hnot
    have hempty := (hlost _ (List.mem_singleton.mpr rfl) rfl "Intro" (some Teaser.embed) none
      (List.mem_singleton.mpr rfl) _ hread (.ofNat 1) (by decide +kernel) Teaser.image
      (by decide +kernel)).mp hnot
    exact absurd hempty.1 (by decide)
  refine ⟨?_, hstandard rfl (by simp [FinderList.standard]) _ himage⟩
  rw [hfound]
  exact himage

/-- Without a body, it is lost. -/
theorem embed_lost_without_body : Teaser.store.Keyed ∧
    (Uuid.ofNat 1).text ∈ uuidTexts mediaElement ("" ++ Teaser.embed) ∧
    Teaser.store.loadByUuid EntityTypeId.media (.ofNat 1) = some Teaser.image ∧
    (mediaEmbedFinder.search Teaser.store {} (Teaser.summarized "")).1 = [] :=
  ⟨Teaser.keyed_store, by decide +kernel, by decide +kernel, by decide +kernel⟩

end Media.Embed

end Grouping
