import Grouping.Media.Settings
import Mathlib.Data.List.TakeWhile

/-! # Names between commas

A text lists names if it is made of entries between commas that are blank or hold one name, perhaps with
blanks around it. The variable of the excluded bundles is read as the names that its value lists; every
value lists some, and joining them by commas gives a value that lists the same.
-/

namespace Grouping

namespace Text

variable {cs before after : List Char} {sep : Char}

def Blank (cs : List Char) : Prop := ∀ c ∈ cs, isBlank c = true

-- named, since all characters of the type could be tried as well
instance (cs : List Char) : Decidable (Blank cs) := List.decidableBAll _ cs

/-- There are no blanks at the ends of the text. -/
structure Bare (cs : List Char) : Prop where
  head : ∀ c ∈ cs.head?, isBlank c = false
  last : ∀ c ∈ cs.getLast?, isBlank c = false

instance (cs : List Char) : Decidable (Bare cs) :=
  decidable_of_iff
    ((cs.head?.all fun c => ! isBlank c) = true ∧ (cs.getLast?.all fun c => ! isBlank c) = true) <| by
    simp only [Option.all_eq_true, Bool.not_eq_true']
    exact ⟨fun h => ⟨h.1, h.2⟩, fun h => ⟨h.head, h.last⟩⟩

/-! ## Blanks at the ends -/

theorem Blank.append (h : Blank before) (h' : Blank after) : Blank (before ++ after) := by
  intro c hc
  rcases List.mem_append.mp hc with hc | hc
  · exact h c hc
  · exact h' c hc

theorem Blank.reverse (h : Blank cs) : Blank cs.reverse := fun c hc => h c (List.mem_reverse.mp hc)

theorem trimStart_append (hbefore : Blank before) (h : ∀ c ∈ cs.head?, isBlank c = false) :
    trimStart (before ++ cs) = cs := by
  rw [trimStart, List.dropWhile_append_of_pos hbefore]
  cases cs with
  | nil => rfl
  | cons c cs => simp [h c rfl]

theorem trimEnd_append (hafter : Blank after) (h : ∀ c ∈ cs.getLast?, isBlank c = false) :
    trimEnd (cs ++ after) = cs := by
  have hhead : ∀ c ∈ cs.reverse.head?, isBlank c = false := by rwa [List.head?_reverse]
  rw [trimEnd, List.reverse_append, trimStart_append hafter.reverse hhead, List.reverse_reverse]

theorem trim_of_blank (h : Blank cs) : trim cs = [] := by
  have hstart : trimStart cs = [] := List.dropWhile_eq_nil_iff.mpr h
  rw [trim, hstart]
  rfl

theorem trim_append (hbefore : Blank before) (hafter : Blank after) (h : Bare cs) :
    trim (before ++ cs ++ after) = cs := by
  cases cs with
  | nil =>
    rw [List.append_nil]
    exact trim_of_blank (hbefore.append hafter)
  | cons c cs =>
    have hstart : trimStart (before ++ (c :: cs ++ after)) = c :: cs ++ after :=
      trimStart_append hbefore h.head
    rw [trim, List.append_assoc, hstart, trimEnd_append hafter h.last]

theorem exists_eq_append_trimStart (cs : List Char) :
    ∃ before, Blank before ∧ cs = before ++ trimStart cs :=
  ⟨cs.takeWhile isBlank, fun _ hc => List.mem_takeWhile_imp hc,
    List.takeWhile_append_dropWhile.symm⟩

theorem exists_eq_trimEnd_append (cs : List Char) :
    ∃ after, Blank after ∧ cs = trimEnd cs ++ after := by
  obtain ⟨before, hbefore, h⟩ := exists_eq_append_trimStart cs.reverse
  refine ⟨before.reverse, hbefore.reverse, ?_⟩
  rw [trimEnd, ← List.reverse_append, ← h, List.reverse_reverse]

theorem exists_eq_append_trim (cs : List Char) :
    ∃ before after, Blank before ∧ Blank after ∧ cs = before ++ trim cs ++ after := by
  obtain ⟨before, hbefore, h⟩ := exists_eq_append_trimStart cs
  obtain ⟨after, hafter, h'⟩ := exists_eq_trimEnd_append (trimStart cs)
  refine ⟨before, after, hbefore, hafter, ?_⟩
  rw [trim, List.append_assoc, ← h', ← h]

theorem trim_eq_nil_iff : trim cs = [] ↔ Blank cs := by
  refine ⟨fun h => ?_, trim_of_blank⟩
  obtain ⟨before, after, hbefore, hafter, hcs⟩ := exists_eq_append_trim cs
  rw [hcs, h, List.append_nil]
  exact hbefore.append hafter

theorem head?_trimStart (cs : List Char) : ∀ c ∈ (trimStart cs).head?, isBlank c = false := by
  intro c hc
  have h := List.head?_dropWhile_not isBlank cs
  have hhead : (cs.dropWhile isBlank).head? = some c := hc
  rw [hhead] at h
  exact h

theorem bare_trim (cs : List Char) : Bare (trim cs) where
  head := by
    -- cutting at the end leaves the first character alone, if any is left
    intro c hc
    obtain ⟨after, -, h⟩ := exists_eq_trimEnd_append (trimStart cs)
    refine head?_trimStart cs c ?_
    rw [h, List.head?_append]
    exact Option.or_eq_some_iff.mpr (.inl hc)
  last := by
    intro c hc
    rw [trim, trimEnd, List.getLast?_reverse] at hc
    exact head?_trimStart _ c hc

/-! ## Pieces -/

theorem piecesBy_eq_splitOnP (separates : Char → Bool) (cs : List Char) :
    piecesBy separates cs = cs.splitOnP separates := by
  induction cs with
  | nil => rfl
  | cons c cs ih =>
    rw [piecesBy, List.splitOnP_cons_eq_if_modifyHead, ih]
    split
    · rfl
    · cases hpieces : cs.splitOnP separates with
      | nil => exact absurd hpieces (List.splitOnP_ne_nil _ _)
      | cons p ps => rfl

theorem pieces_eq_splitOn (sep : Char) (cs : List Char) : pieces sep cs = cs.splitOn sep := by
  rw [pieces, piecesBy_eq_splitOnP, List.splitOn_eq_splitOnP]
  rfl

theorem separates_eq_false_of_mem_piecesBy {separates : Char → Bool} {p : List Char}
    (hp : p ∈ piecesBy separates cs) {c : Char} (hc : c ∈ p) : separates c = false := by
  fun_induction piecesBy separates cs generalizing p with
  | case1 =>
    rw [List.mem_singleton.mp hp] at hc
    cases hc
  | case2 d r hd ih =>
    rcases List.mem_cons.mp hp with rfl | hp
    · cases hc
    · exact ih hp hc
  | case3 d r hd hnil ih => exact absurd hnil (piecesBy_ne_nil _ _)
  | case4 d r hd q qs hpieces ih =>
    rw [hpieces] at ih
    rcases List.mem_cons.mp hp with rfl | hp
    · rcases List.mem_cons.mp hc with rfl | hc
      · exact eq_false_of_ne_true hd
      · exact ih List.mem_cons_self hc
    · exact ih (List.mem_cons_of_mem _ hp) hc

theorem not_mem_of_mem_pieces {p : List Char} (h : p ∈ pieces sep cs) : sep ∉ p := fun hc =>
  absurd (separates_eq_false_of_mem_piecesBy h hc) (by simp)

end Text

namespace MediaSettings

open Text

variable {names : List String} {value stem : String} {environment : String → Option String}

/-- A name that a text between commas can list. -/
structure IsName (n : String) : Prop where
  ne_empty : n ≠ ""
  no_comma : ',' ∉ n.toList
  bare : Bare n.toList

instance (n : String) : Decidable (IsName n) :=
  decidable_of_iff (n ≠ "" ∧ ',' ∉ n.toList ∧ Bare n.toList)
    ⟨fun h => ⟨h.1, h.2.1, h.2.2⟩, fun h => ⟨h.ne_empty, h.no_comma, h.bare⟩⟩

/-- The names that the entries of a list hold, one for each entry that is not blank. -/
inductive Entries : List String → List String → Prop
  | nil : Entries [] []
  | blank {entry : String} {entries names : List String} :
      Blank entry.toList → Entries entries names → Entries (entry :: entries) names
  | name {before n after : String} {entries names : List String} :
      Blank before.toList → Blank after.toList → Entries entries names →
      Entries ((before ++ n ++ after) :: entries) (n :: names)

/-- The text consists of entries between commas that hold the names. -/
def Lists (value : String) (names : List String) : Prop :=
  ∃ entries, value = ",".intercalate entries ∧ Entries entries names

theorem lists_intercalate (names : List String) : Lists (",".intercalate names) names := by
  refine ⟨names, rfl, ?_⟩
  induction names with
  | nil => exact .nil
  | cons n names ih =>
    have hblank : Blank "".toList := fun c hc => by simp at hc
    simpa using Entries.name (n := n) hblank hblank ih

/-! ## Reading entries -/

/-- The names among pieces of a text. -/
def namesIn (pieces : List (List Char)) : List String :=
  ((pieces.map trim).filter (· ≠ [])).map String.ofList

theorem parseNames_eq (value : String) :
    parseNames value = namesIn (value.toList.splitOn ',') := by
  rw [← pieces_eq_splitOn]
  rfl

theorem namesIn_cons_of_trim_eq_nil {p : List Char} (h : trim p = []) (ps : List (List Char)) :
    namesIn (p :: ps) = namesIn ps := by
  simp [namesIn, h]

theorem namesIn_cons_of_trim_ne_nil {p : List Char} (h : trim p ≠ []) (ps : List (List Char)) :
    namesIn (p :: ps) = String.ofList (trim p) :: namesIn ps := by
  simp [namesIn, h]

/-- Each piece is an entry that is blank or holds what is left of the piece without its blanks. -/
theorem entries_namesIn (ps : List (List Char)) : Entries (ps.map String.ofList) (namesIn ps) := by
  induction ps with
  | nil => exact .nil
  | cons p ps ih =>
    by_cases h : trim p = []
    · have hblank : Blank (String.ofList p).toList := by
        rw [String.toList_ofList]
        exact trim_eq_nil_iff.mp h
      rw [List.map_cons, namesIn_cons_of_trim_eq_nil h]
      exact .blank hblank ih
    · obtain ⟨before, after, hbefore, hafter, hp⟩ := exists_eq_append_trim p
      have hentry : String.ofList p =
          String.ofList before ++ String.ofList (trim p) ++ String.ofList after := by
        rw [← String.ofList_append, ← String.ofList_append, ← hp]
      rw [List.map_cons, namesIn_cons_of_trim_ne_nil h, hentry]
      exact .name (by rwa [String.toList_ofList]) (by rwa [String.toList_ofList]) ih

theorem Entries.namesIn_eq {entries : List String} (h : Entries entries names)
    (hnames : ∀ n ∈ names, IsName n) : namesIn (entries.map String.toList) = names := by
  induction h with
  | nil => rfl
  | blank hblank _ ih =>
    rw [List.map_cons, namesIn_cons_of_trim_eq_nil (trim_of_blank hblank), ih hnames]
  | name hbefore hafter _ ih =>
    obtain ⟨hn, hnames⟩ := List.forall_mem_cons.mp hnames
    have htrim := trim_append hbefore hafter hn.bare
    rw [← String.toList_append, ← String.toList_append] at htrim
    rw [List.map_cons, namesIn_cons_of_trim_ne_nil, htrim, String.ofList_toList, ih hnames]
    rw [htrim]
    exact mt String.toList_eq_nil_iff.mp hn.ne_empty

theorem Entries.no_comma {entries : List String} (h : Entries entries names)
    (hnames : ∀ n ∈ names, IsName n) : ∀ entry ∈ entries, ',' ∉ entry.toList := by
  have hblank : ∀ s : String, Blank s.toList → ',' ∉ s.toList := fun s h hc =>
    absurd (h ',' hc) (by decide)
  induction h with
  | nil => nofun
  | blank hentry _ ih =>
    exact List.forall_mem_cons.mpr ⟨hblank _ hentry, ih hnames⟩
  | name hbefore hafter _ ih =>
    obtain ⟨hn, hnames⟩ := List.forall_mem_cons.mp hnames
    refine List.forall_mem_cons.mpr ⟨?_, ih hnames⟩
    simp only [String.toList_append, List.mem_append, not_or]
    exact ⟨⟨hblank _ hbefore, hn.no_comma⟩, hblank _ hafter⟩

theorem lists_parseNames (value : String) : Lists value (parseNames value) := by
  refine ⟨(value.toList.splitOn ',').map String.ofList, ?_, ?_⟩
  · rw [← String.toList_inj, String.toList_intercalate, List.map_map]
    have hid : String.toList ∘ String.ofList = id := funext fun _ => String.toList_ofList
    rw [hid, List.map_id]
    exact (List.intercalate_splitOn ',').symm
  · rw [parseNames_eq]
    exact entries_namesIn _

theorem isName_of_mem_parseNames {n : String} (h : n ∈ parseNames value) : IsName n := by
  obtain ⟨cs, hcs, rfl⟩ := List.mem_map.mp h
  obtain ⟨hmem, hne⟩ := List.mem_filter.mp hcs
  obtain ⟨p, hp, rfl⟩ := List.mem_map.mp hmem
  have hne : trim p ≠ [] := of_decide_eq_true hne
  refine ⟨?_, ?_, ?_⟩
  · rwa [← String.toList_eq_nil_iff.ne, String.toList_ofList]
  · rw [String.toList_ofList]
    intro hcomma
    obtain ⟨before, after, -, -, hp'⟩ := exists_eq_append_trim p
    refine not_mem_of_mem_pieces hp ?_
    rw [hp']
    exact List.mem_append_left _ (List.mem_append_right _ hcomma)
  · rw [String.toList_ofList]
    exact bare_trim p

theorem parseNames_of_lists (h : Lists value names) (hnames : ∀ n ∈ names, IsName n) :
    parseNames value = names := by
  obtain ⟨entries, rfl, hentries⟩ := h
  cases entries with
  | nil =>
    -- no entry and one empty entry make the same text
    cases hentries
    rfl
  | cons entry entries =>
    have hcomma := hentries.no_comma hnames
    have hsplit : (",".intercalate (entry :: entries)).toList.splitOn ',' =
        (entry :: entries).map String.toList := by
      rw [String.toList_intercalate]
      exact List.splitOn_intercalate ',' (List.forall_mem_map.mpr hcomma) (by simp)
    rw [parseNames_eq, hsplit]
    exact hentries.namesIn_eq hnames

theorem parseNames_eq_iff :
    parseNames value = names ↔ (∀ n ∈ names, IsName n) ∧ Lists value names := by
  constructor
  · rintro rfl
    exact ⟨fun n => isName_of_mem_parseNames, lists_parseNames value⟩
  · exact fun ⟨hnames, h⟩ => parseNames_of_lists h hnames

/-! ## The variable -/

/-- Of the variables of the settings, only the one of the excluded bundles is set. -/
structure OnlyExcluded (environment : String → Option String) (stem value : String) : Prop where
  tracking : environment (trackingVariable stem) = none
  excluded : environment (excludedVariable stem) = some value

theorem OnlyExcluded.overlay_eq (h : OnlyExcluded environment stem value) (s : MediaSettings) :
    s.overlay stem environment = .ok { s with excluded := parseNames value } := by
  unfold overlay
  rw [h.tracking, h.excluded]
  rfl

/-- The settings take over exactly the names that the value lists. Every value lists names, and joined by
commas they are read again as they are. -/
theorem overlay_excluded (h : OnlyExcluded environment stem value) (s : MediaSettings) :
    (∀ names, s.overlay stem environment = .ok { s with excluded := names } ↔
      (∀ n ∈ names, IsName n) ∧ Lists value names) ∧
    ∃ names, s.overlay stem environment = .ok { s with excluded := names } ∧
      (∀ n ∈ names, IsName n) ∧
      ∀ environment', OnlyExcluded environment' stem (",".intercalate names) →
        ∀ t : MediaSettings, t.overlay stem environment' = .ok { t with excluded := names } := by
  refine ⟨fun names => ?_, parseNames value, h.overlay_eq s, fun n => isName_of_mem_parseNames, ?_⟩
  · rw [h.overlay_eq, ← parseNames_eq_iff]
    simp
  · intro environment' h' t
    rw [h'.overlay_eq,
      parseNames_of_lists (lists_intercalate _) fun n => isName_of_mem_parseNames]

/-- Two names between blanks of several kinds and three entries without a name. -/
theorem overlay_excluded_blanks :
    let value := "\u3000document ,,\t, audio\u00a0,"
    let environment := fun name => if name = excludedVariable defaultStem then some value else none
    OnlyExcluded environment defaultStem value ∧
      ({ tracking := true } : MediaSettings).overlay defaultStem environment =
        .ok { tracking := true, excluded := ["document", "audio"] } := by
  intro value environment
  have h : OnlyExcluded environment defaultStem value := ⟨by decide +kernel, by decide +kernel⟩
  have hentries : Entries ["\u3000" ++ "document" ++ " ", "", "\t", " " ++ "audio" ++ "\u00a0", ""]
      ["document", "audio"] :=
    .name (by decide) (by decide) <| .blank (by decide) <| .blank (by decide) <|
      .name (by decide) (by decide) <| .blank (by decide) .nil
  have hnames : ∀ n ∈ ["document", "audio"], IsName n := by decide +kernel
  obtain ⟨hiff, -⟩ := overlay_excluded h { tracking := true }
  exact ⟨h, (hiff _).mpr ⟨hnames, _, by decide +kernel, hentries⟩⟩

end MediaSettings

end Grouping
