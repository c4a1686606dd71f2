import Grouping.Proofs.Room
import Grouping.Proofs.Staleness

/-! # Rows keep their identity

New rows take ever larger ids, and the id of a deleted row is not used again. As long as a row is
stored, its group and its time of creation stay, whatever the records say that are saved over it. A
save that fails or is refused changes no row and reports nothing.
-/

namespace Grouping

namespace RelationTable

/-- The second table comes later: what is under an id in both is one row with one group and one time
of creation, and an id that was free stays free, unless it had not been handed out yet. -/
structure EvolvesTo (t t' : RelationTable) : Prop where
  coherent : t'.Coherent
  lastId_le : t.lastId ≤ t'.lastId
  kept : ∀ id r r', t.get? id = some r → t'.get? id = some r' →
    r'.group = r.group ∧ r'.created = r.created
  free : ∀ id ≤ t.lastId, t.get? id = none → t'.get? id = none

variable {t t' t'' : RelationTable}

theorem Coherent.le_lastId_of_get? (h : t.Coherent) {id : Int} {r : Relation}
    (hr : t.get? id = some r) : id ≤ t.lastId :=
  h.le_lastId id (OrderedMap.mem_keys_iff.mpr ⟨r, hr⟩)

theorem lastId_delete (t : RelationTable) (id : Int) : (t.delete id).2.lastId = t.lastId := by
  unfold RelationTable.delete
  split
  · rfl
  · rfl

namespace EvolvesTo

theorem refl (h : t.Coherent) : t.EvolvesTo t where
  coherent := h
  lastId_le := le_rfl
  kept id r r' hr hr' := by
    rw [hr] at hr'
    cases hr'
    exact ⟨rfl, rfl⟩
  free _ _ h := h

theorem trans (hc : t.Coherent) (h : t.EvolvesTo t') (h' : t'.EvolvesTo t'') : t.EvolvesTo t'' where
  coherent := h'.coherent
  lastId_le := h.lastId_le.trans h'.lastId_le
  kept id r r'' hr hr'' := by
    have hid := (hc.le_lastId_of_get? hr).trans h.lastId_le
    cases hr' : t'.get? id with
    | none =>
      rw [h'.free id hid hr'] at hr''
      cases hr''
    | some r' =>
      obtain ⟨hg, hcreated⟩ := h.kept id r r' hr hr'
      obtain ⟨hg', hcreated'⟩ := h'.kept id r' r'' hr' hr''
      exact ⟨hg'.trans hg, hcreated'.trans hcreated⟩
  free id hid hnone := h'.free id (hid.trans h.lastId_le) (h.free id hid hnone)

theorem insert (h : t.Coherent) (r : Relation) : t.EvolvesTo (t.insert r).2 where
  coherent := h.insert r
  lastId_le := by
    change t.lastId ≤ t.lastId + 1
    omega
  kept id x x' hx hx' := by
    have hid := h.le_lastId_of_get? hx
    rw [get?_insert, if_neg (by omega), hx] at hx'
    cases hx'
    exact ⟨rfl, rfl⟩
  free id hid hnone := by
    rw [get?_insert, if_neg (by omega)]
    exact hnone

theorem rewrite (h : t.Coherent) {id : Int} {old r : Relation} (hid : r.id = some id)
    (hold : t.get? id = some old) (hgroup : r.group = old.group)
    (hcreated : r.created = old.created) : t.EvolvesTo ((t.unindex id old).put id r) where
  coherent := h.update hid hold
  lastId_le := le_rfl
  kept j x x' hx hx' := by
    rw [get?_rewritten] at hx'
    split at hx'
    · next hj =>
      subst hj
      rw [hold] at hx
      cases hx
      cases hx'
      exact ⟨hgroup, hcreated⟩
    · rw [hx] at hx'
      cases hx'
      exact ⟨rfl, rfl⟩
  free j _ hnone := by
    rw [get?_rewritten]
    split
    · next hj =>
      rw [← hj, hold] at hnone
      cases hnone
    · exact hnone

theorem delete (h : t.Coherent) (id : Int) : t.EvolvesTo (t.delete id).2 where
  coherent := h.delete id
  lastId_le := (t.lastId_delete id).ge
  kept j x x' hx hx' := by
    rw [get?_delete] at hx'
    split at hx'
    · cases hx'
    · rw [hx] at hx'
      cases hx'
      exact ⟨rfl, rfl⟩
  free j _ hnone := by
    rw [get?_delete, hnone]
    exact ite_self _

end EvolvesTo

end RelationTable

namespace Store

variable {s s' s'' : Store} {r r' : Relation} {t : RelationTable} {w w' : RelationWrite}
  {id id' : Int}

/-! ## One write -/

/-- The write stores a new row under the id. -/
inductive Issues (s : Store) : RelationWrite → Int → Prop
  | save {r r' : Relation} {id : Int} : r.id = none → (s.save r).1 = .ok r' → r'.id = some id →
      Issues s (.save r) id
  | saveValidated {r r' : Relation} {id : Int} : r.id = none →
      (s.saveValidated r).1 = .ok (.saved r') → r'.id = some id → Issues s (.saveValidated r) id

theorem Writes.evolvesTo (hs : s.relations.Coherent) (hw : s.Writes r r' t) :
    s.relations.EvolvesTo t := by
  cases hw with
  | add i hid hi => exact .insert hs _
  | rewrite i id old hid hold hg hi => exact .rewrite hs hid hold hg.symm rfl

/-- A draft is stored under the next id, and a record with an id takes no new one. -/
theorem Writes.lastId (hw : s.Writes r r' t) :
    r.id = none ∧ r'.id = some (s.relations.lastId + 1) ∧ t.lastId = s.relations.lastId + 1 ∧
        t.get? (s.relations.lastId + 1) = some r' ∨
      r.id ≠ none ∧ t.lastId = s.relations.lastId := by
  cases hw with
  | add i hid hi =>
    refine .inl ⟨hid, rfl, rfl, ?_⟩
    rw [RelationTable.get?_insert, if_pos rfl]
  | rewrite i id old hid hold hg hi =>
    right
    rw [hid]
    exact ⟨nofun, rfl⟩

/-- A write leads to a later table, and it hands out the next id or none. -/
structure Numbers (s : Store) (w : RelationWrite) : Prop where
  evolvesTo : s.relations.EvolvesTo (s.write w).relations
  issued : ∀ id, s.Issues w id → id = s.relations.lastId + 1 ∧
    (s.write w).relations.lastId = id ∧ ((s.write w).load id).isSome
  unissued : (¬ ∃ id, s.Issues w id) → (s.write w).relations.lastId = s.relations.lastId

namespace Numbers

theorem of_relations_eq (hs : s.relations.Coherent) (h : (s.write w).relations = s.relations)
    (hno : ∀ id, ¬ s.Issues w id) : s.Numbers w where
  evolvesTo := by
    rw [h]
    exact .refl hs
  issued id hi := absurd hi (hno id)
  unissued _ := congrArg RelationTable.lastId h

theorem of_writes (hs : s.relations.Coherent) (hw : s.Writes r r' t)
    (h : (s.write w).relations = t) (hissues : ∀ id, s.Issues w id ↔ r.id = none ∧ r'.id = some id) :
    s.Numbers w where
  evolvesTo := by
    rw [h]
    exact hw.evolvesTo hs
  issued id hi := by
    obtain ⟨hid, hid'⟩ := (hissues id).mp hi
    rcases hw.lastId with ⟨-, hnext, hlast, hrow⟩ | ⟨hne, -⟩
    · rw [hid'] at hnext
      cases hnext
      rw [Store.load, h, hrow]
      exact ⟨rfl, hlast, rfl⟩
    · exact absurd hid hne
  unissued hno := by
    rcases hw.lastId with ⟨hid, hnext, -⟩ | ⟨-, hlast⟩
    · exact absurd ⟨_, (hissues _).mpr ⟨hid, hnext⟩⟩ hno
    · rw [h, hlast]

theorem save (hs : s.relations.Coherent) (r : Relation) : s.Numbers (.save r) := by
  rcases s.save_cases r with ⟨f, hsave⟩ | ⟨r', t, hw, hsave⟩
  · apply of_relations_eq hs (congrArg (Store.relations ·.2) hsave)
    rintro id ⟨-, hok, -⟩
    rw [hsave] at hok
    cases hok
  · apply of_writes hs hw (congrArg (Store.relations ·.2) hsave)
    intro id
    constructor
    · rintro ⟨hid, hok, hid'⟩
      rw [hsave] at hok
      cases hok
      exact ⟨hid, hid'⟩
    · rintro ⟨hid, hid'⟩
      exact .save hid (congrArg Prod.fst hsave) hid'

theorem saveValidated (hs : s.relations.Coherent) (r : Relation) :
    s.Numbers (.saveValidated r) := by
  rcases s.saveValidated_cases r with ⟨ha, hno⟩ | ⟨r', t, s₁, -, hw, -, hsave⟩
  · apply of_relations_eq (w := .saveValidated r) hs ha.relations
    rintro id (_ | ⟨-, hok, -⟩)
    exact hno _ hok
  · apply of_writes hs hw (congrArg (Store.relations ·.2) hsave)
    intro id
    constructor
    · rintro (_ | ⟨hid, hok, hid'⟩)
      rw [hsave] at hok
      cases hok
      exact ⟨hid, hid'⟩
    · rintro ⟨hid, hid'⟩
      exact .saveValidated hid (congrArg Prod.fst hsave) hid'

theorem of_deletes (hno : ∀ id, ¬ s.Issues w id)
    (h : s.relations.EvolvesTo (s.write w).relations ∧
      (s.write w).relations.lastId = s.relations.lastId) : s.Numbers w where
  evolvesTo := h.1
  issued id hi := absurd hi (hno id)
  unissued _ := h.2

end Numbers

theorem evolvesTo_delete (hs : s.relations.Coherent) (r : Relation) :
    s.relations.EvolvesTo (s.delete r).2.relations ∧
      (s.delete r).2.relations.lastId = s.relations.lastId := by
  rcases s.delete_cases r with ⟨hd, -⟩ | ⟨id, old, -, -, hd⟩
  · rw [hd]
    exact ⟨.refl hs, rfl⟩
  · rw [hd]
    exact ⟨.delete hs id, s.relations.lastId_delete id⟩

theorem evolvesTo_deleteAll (hs : s.relations.Coherent) (rs : List Relation) :
    s.relations.EvolvesTo (s.deleteAll rs).2.relations ∧
      (s.deleteAll rs).2.relations.lastId = s.relations.lastId := by
  induction rs generalizing s with
  | nil => exact ⟨.refl hs, rfl⟩
  | cons r rs ih =>
    obtain ⟨hone, hlast⟩ := evolvesTo_delete hs r
    obtain ⟨hrest, hlast'⟩ := ih hone.coherent
    exact ⟨hone.trans hs hrest, hlast'.trans hlast⟩

theorem numbers_write (hs : s.relations.Coherent) (w : RelationWrite) : s.Numbers w := by
  cases hw : w.record? with
  | none =>
    apply Numbers.of_deletes
    · rintro id ⟨⟩
      · cases hw
      · cases hw
    · rcases bulk_cases (s := s) hw with h | ⟨q, h⟩
      · rw [h]
        exact ⟨.refl hs, rfl⟩
      · rw [h]
        exact evolvesTo_deleteAll hs _
  | some r =>
    cases w with
    | save r => exact .save hs r
    | saveValidated r => exact .saveValidated hs r
    | delete r => exact .of_deletes nofun (evolvesTo_delete hs r)
    | deleteByGroup group => cases hw
    | deleteByEntity e => cases hw
    | deleteByContentType contentType => cases hw

/-- An id is handed out exactly when something is stored under it that had nothing. -/
theorem issues_iff (hs : s.relations.Coherent) (w : RelationWrite) (id : Int) :
    s.Issues w id ↔ s.load id = none ∧ ((s.write w).load id).isSome := by
  have hn := numbers_write hs w
  constructor
  · intro hi
    obtain ⟨rfl, -, hsome⟩ := hn.issued id hi
    exact ⟨hs.get?_next, hsome⟩
  · rintro ⟨hnone, hsome⟩
    obtain ⟨r, hr⟩ := Option.isSome_iff_exists.mp hsome
    have hle := hn.evolvesTo.coherent.le_lastId_of_get? hr
    have hnew : s.relations.lastId < id := by
      by_contra hold
      rw [Store.load, hn.evolvesTo.free id (not_lt.mp hold) hnone] at hr
      cases hr
    by_cases hissued : ∃ j, s.Issues w j
    · obtain ⟨j, hj⟩ := hissued
      obtain ⟨hnext, hlast, -⟩ := hn.issued j hj
      obtain rfl : j = id := by omega
      exact hj
    · have := hn.unissued hissued
      omega

/-! ## Runs -/

/-- A write, or an operation that does not touch the relations. -/
inductive Move : Store → Store → Prop
  | write (s : Store) (w : RelationWrite) : Move s (s.write w)
  | elsewhere {s s' : Store} : s.Step s' → s'.relations = s.relations → Move s s'

def Leads : Store → Store → Prop := Relation.ReflTransGen Move

theorem Reachable.leads (hs : s.Reachable) (h : s.Leads s') : s'.Reachable := by
  induction h with
  | refl => exact hs
  | tail _ hmove ih =>
    cases hmove with
    | write w => exact ih.write w
    | elsewhere hstep _ => exact ih.step hstep

theorem Leads.evolvesTo (hs : s.relations.Coherent) (h : s.Leads s') :
    s.relations.EvolvesTo s'.relations := by
  induction h with
  | refl => exact .refl hs
  | tail _ hmove ih =>
    apply ih.trans hs
    cases hmove with
    | write w => exact (numbers_write ih.coherent w).evolvesTo
    | elsewhere _ hrelations =>
      rw [hrelations]
      exact .refl ih.coherent

/-! ## Saves that fail -/

/-- Why a save fails: first the plugin is looked up, then the row, then the groups are compared. -/
inductive Refuses (s : Store) (r : Relation) : Failure → Prop
  | plugin : s.registry.ofContentType? r.contentType = none → Refuses s r (.pluginNotFound r.plugin)
  | row {id : Int} : (s.registry.ofContentType? r.contentType).isSome → r.id = some id →
      s.load id = none → Refuses s r (.relationNotFound id)
  | group {id : Int} {old : Relation} : (s.registry.ofContentType? r.contentType).isSome →
      r.id = some id → s.load id = some old → old.group ≠ r.group →
      Refuses s r (.groupImmutable id old.group r.group)

variable {f : Failure}

theorem rewrite_eq_error_iff (hid : r.id = some id) :
    (s.rewrite id r).1 = .error f ↔ s.load id = none ∧ f = .relationNotFound id ∨
      ∃ old, s.load id = some old ∧ old.group ≠ r.group ∧
        f = .groupImmutable id old.group r.group := by
  unfold rewrite Store.load
  cases hold : s.relations.get? id with
  | none => simp [eq_comm]
  | some old =>
    by_cases hgroup : old.group = r.group
    · have hu : s.relations.update { r with created := old.created } = .ok _ :=
        RelationTable.update_eq_ok_iff.mpr ⟨rfl, id, old, hid, hold, rfl⟩
      simp [hgroup, hu]
    · simpa [hgroup] using eq_comm

theorem save_eq_error_iff : (s.save r).1 = .error f ↔ s.Refuses r f := by
  cases hi : s.registry.ofContentType? r.contentType with
  | none =>
    have hsave : (s.save r).1 = .error (.pluginNotFound r.plugin) := by
      unfold save
      rw [installationOf_eq, hi]
    rw [hsave]
    constructor
    · rintro ⟨⟩
      exact .plugin hi
    · rintro (_ | ⟨hsome, -, -⟩ | ⟨hsome, -, -, -⟩)
      · rfl
      · simp [hi] at hsome
      · simp [hi] at hsome
  | some i =>
    have hsome : (s.registry.ofContentType? r.contentType).isSome := by simp [hi]
    rw [save_of_installation hi]
    cases hid : (s.stamped i r).id with
    | none =>
      -- a draft is stored, and no other refusal is about a record without id
      have hnone : r.id = none := hid
      refine iff_of_false nofun ?_
      rintro (hfound | ⟨-, hid, -⟩ | ⟨-, hid, -, -⟩)
      · simp [hi] at hfound
      · simp [hnone] at hid
      · simp [hnone] at hid
    | some id =>
      have hrecord : r.id = some id := hid
      refine (rewrite_eq_error_iff (s := s.warm) hid).trans ?_
      constructor
      · rintro (⟨hrow, rfl⟩ | ⟨old, hold, hgroup, rfl⟩)
        · exact .row hsome hrecord hrow
        · exact .group hsome hrecord hold hgroup
      · rintro (hfound | ⟨-, hid', hrow⟩ | ⟨-, hid', hold, hgroup⟩)
        · simp [hi] at hfound
        · cases hrecord.symm.trans hid'
          exact .inl ⟨hrow, rfl⟩
        · cases hrecord.symm.trans hid'
          exact .inr ⟨_, hold, hgroup, rfl⟩

theorem Agrees.refuses (h : s.Agrees s') (hr : s'.Refuses r f) : s.Refuses r f := by
  have hfound : s.registry.ofContentType? r.contentType = s'.registry.ofContentType? r.contentType := by
    unfold Registry.ofContentType?
    rw [h.installed]
  have hload : ∀ j, s.load j = s'.load j := by
    intro j
    unfold Store.load
    rw [h.relations]
  cases hr with
  | plugin hnone => exact .plugin (hfound.trans hnone)
  | row hsome hid hrow => exact .row (hfound ▸ hsome) hid ((hload _).trans hrow)
  | group hsome hid hold hgroup => exact .group (hfound ▸ hsome) hid ((hload _).trans hold) hgroup

/-- Validation itself does not fail, so that a validated save fails only as a plain one does. -/
theorem refuses_of_saveValidated (hs : s.Sound) (h : (s.saveValidated r).1 = .error f) :
    s.Refuses r f := by
  have hagrees := s.agrees_violations r
  obtain ⟨vs, hvs⟩ := exists_violations hs r
  unfold saveValidated at h
  split at h
  · next hv => simp [hv] at hvs
  · next s₁ hv =>
    rw [hv] at hagrees
    have hsave : (s₁.save r).1 = .error f := by
      split at h
      · next hsave =>
        cases h
        rw [hsave]
      · cases h
    exact hagrees.refuses (save_eq_error_iff.mp hsave)
  · cases h

/-- The second store has the rows of the first, and nothing was reported in between. -/
def Keeps (s s' : Store) : Prop := s'.relations = s.relations ∧ s'.staleTags = s.staleTags

theorem keeps_of_save_error (h : (s.save r).1 = .error f) : s.Keeps (s.save r).2 := by
  rcases s.save_cases r with ⟨f', hsave⟩ | ⟨r', t, -, hsave⟩
  · rw [hsave]
    exact ⟨rfl, rfl⟩
  · simp [hsave] at h

theorem keeps_of_not_saved (h : ∀ r', (s.saveValidated r).1 ≠ .ok (.saved r')) :
    s.Keeps (s.saveValidated r).2 := by
  rcases s.saveValidated_cases r with ⟨hagrees, -⟩ | ⟨r', t, s₁, -, -, -, hsave⟩
  · exact ⟨hagrees.relations, hagrees.staleTags⟩
  · exact absurd (congrArg Prod.fst hsave) (h r')

/-- A write hands out an id exactly when it stores something under it that had nothing, and later ids
are larger. What is stored under an id keeps its group and its time of creation, and once it is gone
nothing is stored there again. A save that fails, for one of three reasons, or that is refused keeps
all rows and reports nothing. -/
theorem rows_keep_identity (h : s.Reachable) :
    (∀ w id, s.Issues w id ↔ s.load id = none ∧ ((s.write w).load id).isSome) ∧
    (∀ w id s' w' id', s.Issues w id → (s.write w).Leads s' → s'.Issues w' id' → id < id') ∧
    (∀ id r s', s.load id = some r → s.Leads s' →
      (∀ r', s'.load id = some r' → r'.group = r.group ∧ r'.created = r.created) ∧
      (s'.load id = none → ∀ s'', s'.Leads s'' → s''.load id = none)) ∧
    (∀ r f, (s.save r).1 = .error f → s.Refuses r f ∧ s.Keeps (s.save r).2) ∧
    (∀ r f, (s.saveValidated r).1 = .error f → s.Refuses r f ∧ s.Keeps (s.saveValidated r).2) ∧
    ∀ r vs, (s.saveValidated r).1 = .ok (.refused vs) → s.Keeps (s.saveValidated r).2 := by
  have hs := h.sound
  refine ⟨fun w id => issues_iff hs.relations w id, ?_, ?_, ?_, ?_, ?_⟩
  · intro w id s' w' id' hissues hleads hissues'
    obtain ⟨-, hlast, -⟩ := (numbers_write hs.relations w).issued id hissues
    have hlater := hleads.evolvesTo (numbers_write hs.relations w).evolvesTo.coherent
    obtain ⟨hnext, -, -⟩ := (numbers_write hlater.coherent w').issued id' hissues'
    have := hlater.lastId_le
    omega
  · intro id r s' hr hleads
    have hlater := hleads.evolvesTo hs.relations
    refine ⟨fun r' hr' => hlater.kept id r r' hr hr', ?_⟩
    intro hgone s'' hleads'
    have hid := (hs.relations.le_lastId_of_get? hr).trans hlater.lastId_le
    exact (hleads'.evolvesTo hlater.coherent).free id hid hgone
  · intro r f hsave
    exact ⟨save_eq_error_iff.mp hsave, keeps_of_save_error hsave⟩
  · intro r f hsave
    refine ⟨refuses_of_saveValidated hs hsave, keeps_of_not_saved fun r' hok => ?_⟩
    simp [hsave] at hok
  · intro r vs hsave
    refine keeps_of_not_saved fun r' hok => ?_
    simp [hsave] at hok

/-- The membership is saved over itself, later and with a forged time of creation. -/
def resaved : Store :=
  (save { joined with now := ⟨5, 0⟩ } { membership with id := some 1, created := ⟨9, 0⟩ }).2

/-- The change of the membership is dated, its creation stays; once deleted it does not come back. -/
theorem rows_keep_identity_resaved : ∃ r r', joined.load 1 = some r ∧ resaved.load 1 = some r' ∧
    r'.changed ≠ r.changed ∧ r'.group = r.group ∧ r'.created = r.created ∧
    ∀ s, (resaved.delete r').2.Leads s → s.load 1 = none := by
  have hresaved : joined.Leads resaved :=
    (Relation.ReflTransGen.single (.elsewhere (.setClock joined ⟨5, 0⟩) rfl)).tail (.write _ (.save _))
  obtain ⟨r, hr⟩ : ∃ r, joined.load 1 = some r := ⟨_, rfl⟩
  obtain ⟨r', hr'⟩ : ∃ r', resaved.load 1 = some r' := ⟨_, rfl⟩
  have hlife := (rows_keep_identity reachable_joined).2.2.1 1 r
  obtain ⟨hgroup, hcreated⟩ := (hlife resaved hr hresaved).1 r' hr'
  have hdeleted : joined.Leads (resaved.delete r').2 := hresaved.tail (.write resaved (.delete r'))
  refine ⟨r, r', hr, hr', ?_, hgroup, hcreated, (hlife _ hr hdeleted).2 ?_⟩
  · cases hr
    cases hr'
    decide
  · have hid := ((reachable_joined.leads hresaved).sound).relations.id_eq hr'
    rw [load_delete hid hr', if_pos rfl]

end Store

end Grouping
