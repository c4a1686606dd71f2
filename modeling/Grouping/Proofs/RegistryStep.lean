import Grouping.Proofs.Installed
import Mathlib.Logic.Relation

/-! # What operations on a registry do

For each operation, the ways in which it can end and what it has done then. Every operation comes down
to a few moves, so what the moves preserve is true of every registry that operations can produce.
-/

namespace Grouping

namespace Registry

variable {r r' : Registry}

theorem warm_warm (r : Registry) : r.warm.warm = r.warm := by
  cases hc : r.cached <;> simp [warm, hc]

/-! ## Stored configurations -/

section Configured

variable {Q : String → String → Configuration → Prop} (h : ∀ g, (r.configuredOn g).All (Q g))
include h

theorem all_configuredOn_configure {g plugin : String} {c : Configuration} (hc : Q g plugin c)
    (g' : String) : ((r.configure g plugin c).configuredOn g').All (Q g') := by
  rw [configuredOn_configure]
  split
  · next hg => exact (h g').insert (hg ▸ hc)
  · exact h g'

theorem all_configuredOn_unconfigure (g plugin g' : String) :
    ((r.unconfigure g plugin).configuredOn g').All (Q g') := by
  rw [configuredOn_unconfigure]
  split
  · exact (h g').erase plugin
  · exact h g'

end Configured

/-! ## Operations -/

/-- An installation is refused before anything is written, or it enters a configuration as the enabler
locks it. -/
theorem install_eq (r : Registry) (groupType plugin : String) (c : Option Configuration) :
    (groupType ∉ r.groupTypes.keys ∧
      r.install groupType plugin c = (.error (.groupTypeNotFound groupType), r)) ∨
    groupType ∈ r.groupTypes.keys ∧
      (r.catalog.definitions.get? plugin = none ∧
        r.install groupType plugin c = (.error (.pluginNotFound plugin), r.warmCatalog) ∨
      ∃ e, r.catalog.definitions.get? plugin = some e ∧
        r.install groupType plugin c =
          if r.has groupType plugin then
            (.error (.pluginAlreadyInstalled groupType plugin), r.warmCatalog.warm)
          else
            (r.warmCatalog.warm.configure groupType plugin (e.lock (c.getD e.defaults))).reread
              groupType plugin) := by
  have hhas : r.warmCatalog.warm.has groupType plugin = r.has groupType plugin := by
    unfold has
    rw [installedOn_warm]
    rfl
  have hget : r.warmCatalog.catalog.get? plugin = r.catalog.definitions.get? plugin := rfl
  unfold install Registry.groupType
  cases hg : r.groupTypes.get? groupType with
  | none => exact .inl ⟨OrderedMap.get?_eq_none_iff.mp hg, rfl⟩
  | some t =>
    refine .inr ⟨OrderedMap.mem_keys_iff.mpr ⟨t, hg⟩, ?_⟩
    unfold warmCatalog at hhas hget
    dsimp only
    rw [Catalog.require, hget, hhas]
    cases r.catalog.definitions.get? plugin with
    | none => exact .inl ⟨rfl, rfl⟩
    | some e => exact .inr ⟨e, rfl, rfl⟩

theorem install_cases (r : Registry) (groupType plugin : String) (c : Option Configuration) :
    (r.install groupType plugin c).2 = r ∨
    (r.install groupType plugin c).2 = r.warmCatalog ∨
    (r.install groupType plugin c).2 = r.warmCatalog.warm ∨
    ∃ e c', r.catalog.definitions.get? plugin = some e ∧
      (r.install groupType plugin c).2 =
        (r.warmCatalog.warm.configure groupType plugin (e.lock c')).clear.warm := by
  rcases r.install_eq groupType plugin c with ⟨-, h⟩ | ⟨-, ⟨-, h⟩ | ⟨e, he, h⟩⟩
  · exact .inl (congrArg Prod.snd h)
  · exact .inr (.inl (congrArg Prod.snd h))
  · right
    right
    rw [h]
    split
    · exact .inl rfl
    · exact .inr ⟨e, _, he, rfl⟩

theorem uninstall_eq (r : Registry) (groupType plugin : String) :
    ((r.installedOn groupType).get? plugin = none ∧
      r.uninstall groupType plugin = (.error (.pluginNotFound plugin), r.warm)) ∨
    ∃ i, (r.installedOn groupType).get? plugin = some i ∧
      r.uninstall groupType plugin =
        if i.enabler.isEnforced then (.error (enforcedFailure plugin), r.warm)
        else (.ok (), (r.warm.unconfigure groupType plugin).clear) := by
  unfold uninstall get
  dsimp only
  rw [installedOn_warm]
  cases h : (r.installedOn groupType).get? plugin with
  | none => exact .inl ⟨rfl, rfl⟩
  | some i => exact .inr ⟨i, rfl, rfl⟩

theorem uninstall_of_installed {groupType plugin : String} {i : Installation}
    (hi : (r.installedOn groupType).get? plugin = some i) (he : ¬ i.enabler.isEnforced = true) :
    r.uninstall groupType plugin = (.ok (), (r.warm.unconfigure groupType plugin).clear) := by
  rcases r.uninstall_eq groupType plugin with ⟨hnone, -⟩ | ⟨j, hj, hu⟩
  · rw [hi] at hnone
    cases hnone
  · obtain rfl := Option.some.inj (hi.symm.trans hj)
    rw [hu, if_neg he]

theorem uninstall_cases (r : Registry) (groupType plugin : String) :
    (r.uninstall groupType plugin).2 = r.warm ∨
    (r.uninstall groupType plugin).2 = (r.warm.unconfigure groupType plugin).clear := by
  rcases r.uninstall_eq groupType plugin with ⟨-, h⟩ | ⟨i, -, h⟩
  · exact .inl (congrArg Prod.snd h)
  · rw [h]
    split
    · exact .inl rfl
    · exact .inr rfl

theorem updateConfiguration_eq (r : Registry) (groupType plugin : String) (c : Configuration) :
    ((r.installedOn groupType).get? plugin = none ∧
      r.updateConfiguration groupType plugin c = (.error (.pluginNotFound plugin), r.warm)) ∨
    ∃ i, (r.installedOn groupType).get? plugin = some i ∧
      r.updateConfiguration groupType plugin c =
        (r.warm.configure groupType plugin (i.enabler.lock c)).reread groupType plugin := by
  unfold updateConfiguration get
  dsimp only
  rw [installedOn_warm]
  cases h : (r.installedOn groupType).get? plugin with
  | none => exact .inl ⟨rfl, rfl⟩
  | some i => exact .inr ⟨i, rfl, rfl⟩

theorem updateConfiguration_cases (r : Registry) (groupType plugin : String) (c : Configuration) :
    (r.updateConfiguration groupType plugin c).2 = r.warm ∨
    ∃ i, (r.installedOn groupType).get? plugin = some i ∧
      (r.updateConfiguration groupType plugin c).2 =
        (r.warm.configure groupType plugin (i.enabler.lock c)).clear.warm := by
  rcases r.updateConfiguration_eq groupType plugin c with ⟨-, h⟩ | ⟨i, hi, h⟩
  · exact .inl (congrArg Prod.snd h)
  · exact .inr ⟨i, hi, congrArg Prod.snd h⟩

/-- The operations on a registry and on the catalog behind it, reading the map included. -/
inductive Step : Registry → Registry → Prop
  | catalog {r : Registry} {c : Catalog} : r.catalog.Step c → Step r { r with catalog := c }
  | registerGroupType (r : Registry) (g : GroupType) : Step r (r.registerGroupType g)
  | install (r : Registry) (groupType plugin : String) (c : Option Configuration) :
      Step r (r.install groupType plugin c).2
  | uninstall (r : Registry) (groupType plugin : String) : Step r (r.uninstall groupType plugin).2
  | updateConfiguration (r : Registry) (groupType plugin : String) (c : Configuration) :
      Step r (r.updateConfiguration groupType plugin c).2
  | clear (r : Registry) : Step r r.clear
  | warm (r : Registry) : Step r r.warm

/-! ## Moves -/

/-- What the operations on a registry come down to. -/
inductive Move : Registry → Registry → Prop
  | registerGroupType (r : Registry) (g : GroupType) : Move r (r.registerGroupType g)
  | install {r : Registry} {g plugin : String} {e : Enabler} (c : Configuration) :
      g ∈ r.groupTypes.keys → r.catalog.definitions.get? plugin = some e →
      Move r (r.configure g plugin (e.lock c))
  | update {r : Registry} {g plugin : String} {i : Installation} (c : Configuration) :
      (r.installedOn g).get? plugin = some i → Move r (r.configure g plugin (i.enabler.lock c))
  | unconfigure (r : Registry) (g plugin : String) : Move r (r.unconfigure g plugin)
  | clear (r : Registry) : Move r r.clear
  | warm (r : Registry) : Move r r.warm
  | warmCatalog (r : Registry) : Move r r.warmCatalog

abbrev Moves : Registry → Registry → Prop := Relation.ReflTransGen Move

theorem Moves.preserves {P : Registry → Prop} (h : r.Moves r')
    (hmove : ∀ r r', Move r r' → P r → P r') (hr : P r) : P r' := by
  induction h with
  | refl => exact hr
  | tail _ hlast ih => exact hmove _ _ hlast ih

theorem moves_install (r : Registry) (g plugin : String) (c : Option Configuration) :
    r.Moves (r.install g plugin c).2 := by
  have hcatalog : r.Moves r.warmCatalog := .single (.warmCatalog r)
  rcases r.install_eq g plugin c with ⟨-, h⟩ | ⟨hg, ⟨-, h⟩ | ⟨e, he, h⟩⟩
  · rw [h]
  · rw [h]
    exact hcatalog
  · have hwarm := hcatalog.tail (.warm _)
    rw [h]
    split
    · exact hwarm
    · refine ((hwarm.tail (.install _ ?_ ?_)).tail (.clear _)).tail (.warm _)
      · rw [groupTypes_warm]
        exact hg
      · rw [definitions_warm]
        exact he

theorem moves_uninstall (r : Registry) (g plugin : String) :
    r.Moves (r.uninstall g plugin).2 := by
  have hwarm : r.Moves r.warm := .single (.warm r)
  rcases r.uninstall_cases g plugin with h | h
  · rw [h]
    exact hwarm
  · rw [h]
    exact (hwarm.tail (.unconfigure _ g plugin)).tail (.clear _)

theorem moves_updateConfiguration (r : Registry) (g plugin : String) (c : Configuration) :
    r.Moves (r.updateConfiguration g plugin c).2 := by
  have hwarm : r.Moves r.warm := .single (.warm r)
  rcases r.updateConfiguration_cases g plugin c with h | ⟨i, hi, h⟩
  · rw [h]
    exact hwarm
  · rw [h]
    refine ((hwarm.tail (.update c ?_)).tail (.clear _)).tail (.warm _)
    rw [installedOn_warm]
    exact hi

/-- An operation changes the catalog directly, or it comes down to moves. -/
theorem Step.cases (h : Step r r') :
    (∃ c, r.catalog.Step c ∧ r' = { r with catalog := c }) ∨ r.Moves r' := by
  cases h with
  | catalog hc => exact .inl ⟨_, hc, rfl⟩
  | registerGroupType g => exact .inr (.single (.registerGroupType r g))
  | install g plugin c => exact .inr (r.moves_install g plugin c)
  | uninstall g plugin => exact .inr (r.moves_uninstall g plugin)
  | updateConfiguration g plugin c => exact .inr (r.moves_updateConfiguration g plugin c)
  | clear => exact .inr (.single (.clear r))
  | warm => exact .inr (.single (.warm r))

/-- What changes of the catalog and moves preserve is preserved by the operations. -/
theorem Step.preserves {P : Registry → Prop} (h : Step r r')
    (hcatalog : ∀ r c, r.catalog.Step c → P r → P { r with catalog := c })
    (hmove : ∀ r r', Move r r' → P r → P r') (hr : P r) : P r' := by
  rcases h.cases with ⟨c, hc, rfl⟩ | hmoves
  · exact hcatalog r c hc hr
  · exact hmoves.preserves hmove hr

theorem Move.sound (h : Move r r') (hr : r.Sound) : r'.Sound := by
  cases h with
  | registerGroupType g => exact ⟨Catalog.fresh_clear _, nofun⟩
  | install c => exact hr.configure _ _ _
  | update c => exact hr.configure _ _ _
  | unconfigure g plugin => exact hr.unconfigure g plugin
  | clear => exact hr.clear
  | warm => exact hr.warm
  | warmCatalog => exact hr.warmCatalog

theorem Step.sound (h : Step r r') (hr : r.Sound) : r'.Sound :=
  h.preserves (fun _ _ hc hr => hr.withCatalog (hc.fresh hr.catalog))
    (fun _ _ hmove => hmove.sound) hr

end Registry

end Grouping
