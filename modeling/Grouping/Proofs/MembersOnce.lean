import Grouping.Proofs.Deletion
import Grouping.Proofs.Joining
import Grouping.Proofs.Membership

/-! # Who is a member of a group twice

Members are validated, and the limit of their plugin is one. Still a user can become a member of a
group for the second time, in two ways. The creator of a group is not validated, and a group can be
created over one that is there already. And where a plugin on another group type shares the relation
bundle of the memberships, it may be its limits that the validation looks at. In all other runs
everybody is a member of a group once at most.
-/

namespace Grouping.Store

variable {s s' : Store} {entity group : Entity} {creator : Option Entity} {plugin : String}
  {i : Installation} {l : Link} {r : Relation}

def MembersOnce (s : Store) : Prop :=
  ∀ g k, s.relations.timesIn g PluginId.membership k ≤ 1

/-- A group is created over one of which its first member is a member already. -/
def FoundsAgain (s : Store) (group : Entity) (creator : Option Entity) : Prop :=
  ∃ saved member g k, (s.createGroup group creator).1 = .ok saved ∧
    s.joiner? group creator = some member ∧ saved.serial? = some g ∧ member.key? = some k ∧
    0 < s.relations.timesIn g PluginId.membership k

/-- A member can join again: the relation bundle leads to another installation, which has room. -/
def Readmits (s : Store) (group user : Entity) : Prop :=
  ∃ i j l, s.Joins user group PluginId.membership i l ∧
    0 < s.relations.timesIn l.group PluginId.membership l.key ∧
    s.registry.ofContentType? l.contentType = some j ∧ j ≠ i ∧ j.Admits s.relations l

/-- The operation makes a member of a group its member once more. -/
def Rejoins (s : Store) : Operation → Prop
  | .createGroup group creator => s.FoundsAgain group creator
  | .addContent group entity plugin => plugin = PluginId.membership ∧ s.Readmits group entity
  | .addMember group user _ => s.Readmits group user
  | _ => False

namespace MembersOnce

theorem of_links (h : s.MembersOnce) (hlinks : s'.relations.links.Sublist s.relations.links) :
    s'.MembersOnce := by
  intro g k
  exact (RelationTable.timesIn_le hlinks g PluginId.membership k).trans (h g k)

theorem of_eq (h : s.MembersOnce) (hrelations : s'.relations = s.relations) : s'.MembersOnce :=
  h.of_links (by rw [hrelations])

theorem of_cascades (h : s.MembersOnce) {k : EntityKey} {n : Nat} (hc : s.Cascades k n s') :
    s'.MembersOnce := by
  refine h.of_links ?_
  unfold RelationTable.links
  rw [hc.relations]
  exact List.filter_sublist.map _

theorem gains_iff (h : s.MembersOnce) (hs : s.Sound) (hg : s.Gains s' r)
    (hplugin : r.plugin = PluginId.membership) :
    s'.MembersOnce ↔ s.relations.timesIn r.group PluginId.membership r.key = 0 := by
  have hcount := RelationTable.timesIn_of_links_append (hg.links hs)
  constructor
  · intro hs'
    have hone := hs' r.group r.key
    rw [hcount, if_pos ⟨rfl, hplugin, rfl⟩] at hone
    omega
  · intro hnone g k
    have hone := h g k
    rw [hcount]
    split
    · next hl =>
      obtain ⟨rfl, -, rfl⟩ := hl
      change s.relations.timesIn r.group PluginId.membership r.key + 1 ≤ 1
      omega
    · omega

theorem of_gains (h : s.MembersOnce) (hs : s.Sound) (hg : s.Gains s' r)
    (hplugin : r.plugin ≠ PluginId.membership) : s'.MembersOnce := by
  intro g k
  rw [RelationTable.timesIn_of_links_append (hg.links hs), if_neg fun hl => hplugin hl.2.1]
  exact h g k

end MembersOnce

/-! ## Additions -/

theorem Validates.not_readmits
    (hno : ∀ i l, s.Joins entity group PluginId.membership i l → ¬ s.Validates l) :
    ¬ s.Readmits group entity := by
  rintro ⟨i, j, l, hjoins, -, hfound, -, hadmits⟩
  refine hno i l hjoins fun j' hj' _ _ => ?_
  obtain rfl : j = j' := Option.some.inj (hfound.symm.trans hj')
  exact hadmits

/-- Membership itself has no room for a member, so whoever is let in again owes it to another one. -/
theorem readmits_iff (hs : s.Sound) (hm : s.registry.KeepsMembership)
    (hgroup : s.entities.HoldsKeyOf group) (hentity : s.entities.HoldsKeyOf entity)
    (hjoins : s.Joins entity group PluginId.membership i l) (hv : s.Validates l) :
    s.Readmits group entity ↔ 0 < s.relations.timesIn l.group PluginId.membership l.key := by
  constructor
  · rintro ⟨i', j, l', hjoins', hpos, -⟩
    obtain ⟨rfl, rfl⟩ := hjoins.unique hjoins'
    exact hpos
  · intro hpos
    obtain ⟨j, hj⟩ := Option.isSome_iff_exists.mp (hjoins.isSome_ofContentType? hs)
    have hadmits := hv j hj (hgroup _ hjoins.groupKey) (hentity _ hjoins.key)
    refine ⟨i, j, l, hjoins, hpos, hj, ?_, hadmits⟩
    rintro rfl
    have hlimit := (hm.installed hs.registry _ j hjoins.installed).2
    have hroom := hadmits.entity (by omega)
    rw [hjoins.plugin_eq] at hroom
    omega

theorem membersOnce_admission_iff (h : s.MembersOnce) (hs : s.Sound)
    (hm : s.registry.KeepsMembership) (hgroup : s.entities.HoldsKeyOf group)
    (hentity : s.entities.HoldsKeyOf entity)
    (ha : s.Admission entity group PluginId.membership s') :
    s'.MembersOnce ↔ ¬ s.Readmits group entity := by
  cases ha with
  | refused hagrees hno =>
    exact iff_of_true (h.of_eq hagrees.relations) (Validates.not_readmits hno)
  | joined i r hjoins hv hgains =>
    rw [h.gains_iff hs hgains hjoins.plugin_eq, readmits_iff hs hm hgroup hentity hjoins hv,
      Nat.pos_iff_ne_zero, not_not]
    rfl

/-! ## New groups -/

theorem Fails.relations {f : Failure} (h : s.Fails group f s') : s'.relations = s.relations := by
  cases h with
  | unchanged _ hrelations _ => exact hrelations
  | undone _ _ hrelations _ _ => exact hrelations

theorem membersOnce_createGroup_iff (h : s.MembersOnce) (hs : s.Reachable) (group : Entity)
    (creator : Option Entity) :
    (s.createGroup group creator).2.MembersOnce ↔ ¬ s.FoundsAgain group creator := by
  cases hanswer : (s.createGroup group creator).1 with
  | error f =>
    refine iff_of_true (h.of_eq (createGroup_fails hs hanswer).relations) ?_
    rintro ⟨saved, member, g, k, hok, -⟩
    rw [hanswer] at hok
    cases hok
  | ok saved =>
    have hfounds := founds_createGroup hanswer
    cases hjoiner : s.joiner? group creator with
    | none =>
      rw [hjoiner] at hfounds
      cases hfounds with
      | alone _ hagrees =>
        refine iff_of_true (h.of_eq hagrees.relations) ?_
        rintro ⟨_, member, g, k, -, hmember, -⟩
        rw [hjoiner] at hmember
        cases hmember
    | some member =>
      rw [hjoiner] at hfounds
      cases hfounds with
      | @joined entities _ _ i r hputs hjoins hgains =>
        have hone : MembersOnce { s with entities } := h
        have hserial : saved.serial? = some r.group := by
          obtain ⟨hsaved, hid, -⟩ := Entity.key?_eq_some_iff.mp hjoins.groupKey
          exact Entity.serial?_eq_some_iff.mpr ⟨hsaved, hid⟩
        rw [hone.gains_iff (hs.sound.puts hputs) hgains hjoins.plugin_eq]
        constructor
        · rintro hnone ⟨saved', member', g, k, hok, hmember, hg, hk, hpos⟩
          rw [hanswer] at hok
          cases hok
          rw [hjoiner] at hmember
          cases hmember
          rw [hserial] at hg
          cases hg
          rw [hjoins.key] at hk
          cases hk
          exact absurd hnone hpos.ne'
        · intro hnot
          by_contra hne
          exact hnot ⟨saved, member, r.group, r.key, hanswer, hjoiner, hserial, hjoins.key,
            Nat.pos_of_ne_zero hne⟩

/-! ## Runs -/

theorem membersOnce_perform_iff {op : Operation} (h : s.MembersOnce) (hs : s.Reachable)
    (hm : s.registry.KeepsMembership) (hknows : s.Knows op) :
    (s.perform op).MembersOnce ↔ ¬ s.Rejoins op := by
  cases op with
  | setClock now => exact iff_of_true h not_false
  | registerType t => exact iff_of_true h not_false
  | setting c => exact iff_of_true h not_false
  | saveEntity e =>
    refine iff_of_true ?_ not_false
    rcases s.saveEntity_puts e with ⟨f, hsave⟩ | ⟨saved, entities, hsave, -⟩
    · simpa [perform, hsave] using h
    · have hone : MembersOnce { s with entities } := h
      simpa [perform, hsave] using hone
  | createGroup group creator => exact membersOnce_createGroup_iff h hs group creator
  | addContent group entity plugin =>
    obtain ⟨hgroup, hentity⟩ := knows_addContent_iff.mp hknows
    have ha := admission_addContent hs group entity plugin
    by_cases hplugin : plugin = PluginId.membership
    · subst hplugin
      simpa [perform, Rejoins] using membersOnce_admission_iff h hs.sound hm hgroup hentity ha
    · refine iff_of_true ?_ fun hr => hplugin hr.1
      cases ha with
      | refused hagrees _ => exact h.of_eq hagrees.relations
      | joined i r hjoins _ hgains =>
        exact h.of_gains hs.sound hgains (hjoins.plugin_eq.trans_ne hplugin)
  | addMember group user roles =>
    obtain ⟨hgroup, huser⟩ := knows_addMember_iff.mp hknows
    exact membersOnce_admission_iff h hs.sound hm hgroup huser (admission_addMember hs group user roles)
  | removeContent r => exact iff_of_true (h.of_links ((s.relations_delete r).map _)) not_false
  | deleteGroup group =>
    refine iff_of_true ?_ not_false
    change (s.deleteGroup group).2.MembersOnce
    rcases deleteGroup_cases hs group with hd | ⟨k, n, hcascades⟩
    · rwa [hd]
    · exact h.of_cascades hcascades
  | deleteEntity e =>
    refine iff_of_true ?_ not_false
    change (s.deleteEntity e).2.MembersOnce
    rcases deleteEntity_cases hs e with hd | ⟨k, n, hcascades⟩
    · rwa [hd]
    · exact h.of_cascades hcascades
  | uninstallPlugin groupType plugin =>
    refine iff_of_true ?_ not_false
    change (s.uninstallPlugin groupType plugin).2.MembersOnce
    have hwarm : s.warm.MembersOnce := h
    rcases s.uninstallPlugin_cases groupType plugin with hu | ⟨rs, hu⟩
    · rwa [hu]
    · rw [hu]
      exact hwarm.of_links ((s.warm.relations_deleteAll rs).map _)

/-- On a new site everybody is a member of a group once at most, until an operation makes a member of
a group its member again; and then no longer. -/
theorem throughout_membersOnce_iff (bundles : Bundles) (now : Instant) {ops : List Operation}
    (h : (fresh bundles now).AtEach Knows ops) :
    (fresh bundles now).Throughout MembersOnce ops ↔
      (fresh bundles now).AtEach (fun s op => ¬ s.Rejoins op) ops := by
  refine throughout_iff_atEach (I := fun s => s.Reachable ∧ s.registry.KeepsMembership) ?_ ?_
    ⟨reachable_fresh bundles now, keepsMembership_fresh bundles now⟩ ?_ h
  · rintro s op ⟨hs, hm⟩
    exact ⟨hs.perform op, keepsMembership_perform hm hs op⟩
  · rintro s op ⟨hs, hm⟩ hone hknows
    exact membersOnce_perform_iff hone hs hm hknows
  · intro g k
    exact Nat.zero_le _

/-- A user founds a club with a given id. -/
def founded : List Operation :=
  [.setting (.registerGroupType { id := "club", label := "Club" }),
    .saveEntity (Entity.create default EntityTypeId.user EntityTypeId.user),
    .createGroup (Entity.group default "club" "Chess") (some user)]

theorem membersOnce_of_length_le (h : s.relations.relations.length ≤ 1) : s.MembersOnce :=
  fun _ _ => (List.length_filter_le _ _).trans h

/-- The founder is refused as a new member. -/
theorem throughout_membersOnce_founded :
    let ops := founded ++ [Operation.addMember chess user []]
    (fresh .empty ⟨0, 0⟩).AtEach (fun s op => ¬ s.Rejoins op) ops ∧
      (ops.foldl perform (fresh .empty ⟨0, 0⟩)).relations.size = 1 := by
  intro ops
  have hknows : (fresh .empty ⟨0, 0⟩).AtEach Knows ops := by decide +kernel
  have hlength : (fresh .empty ⟨0, 0⟩).Throughout (fun s => s.relations.relations.length ≤ 1) ops := by
    decide +kernel
  refine ⟨(throughout_membersOnce_iff _ _ hknows).mp (hlength.mono fun _ h => ?_), ?_⟩
  · exact membersOnce_of_length_le h
  · decide +kernel

/-- Founding the club once more under its id makes the founder a member twice. -/
theorem twice_member_founded :
    let ops := founded ++ [Operation.createGroup chess (some user)]
    (fresh .empty ⟨0, 0⟩).AtEach Knows ops ∧ ¬ (fresh .empty ⟨0, 0⟩).Throughout MembersOnce ops ∧
      (ops.foldl perform (fresh .empty ⟨0, 0⟩)).relations.timesIn 1 PluginId.membership
        ⟨EntityTypeId.user, .int 1⟩ = 2 := by
  intro ops
  have htwice : (ops.foldl perform (fresh .empty ⟨0, 0⟩)).relations.timesIn 1 PluginId.membership
      ⟨EntityTypeId.user, .int 1⟩ = 2 := by
    decide +kernel
  refine ⟨by decide +kernel, ?_, htwice⟩
  intro hone
  have hle := hone.last 1 ⟨EntityTypeId.user, .int 1⟩
  omega

/-- A node bundle whose plugin shares the relation bundle of the memberships on another group type. -/
def sharing : List Operation :=
  [.setting (.addBundle EntityTypeId.node "x-group_membership" "X"),
    .setting (.registerGroupType { id := "club-group_node-x", label := "Club" }),
    .setting (.registerGroupType { id := "club", label := "Club" }),
    .setting (.install "club"
      (EnablerDefinition.derivedId PluginId.nodeBase "x-group_membership") none),
    .saveEntity (Entity.create default EntityTypeId.user EntityTypeId.user),
    .createGroup (Entity.group default "club-group_node-x" "Chess") (some user),
    .addMember { Entity.group default "club-group_node-x" "Chess" with
      id := some (.int 1), saved := true } user []]

/-- The validation of the second membership looks at the limits of the nodes, which have none. -/
example : (sharing.foldl perform (fresh .empty ⟨0, 0⟩)).relations.timesIn 1 PluginId.membership
    ⟨EntityTypeId.user, .int 1⟩ = 2 := by
  decide +kernel

end Grouping.Store
