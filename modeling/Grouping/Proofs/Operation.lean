import Grouping.Proofs.Reachability

/-! # Runs of operations

What a site can be told to do, from the registration of a group type to the deletion of an entity. A
run is a list of operations; an operation that fails does not end it.
-/

namespace Grouping

/-- Changes of the registry and of the bundles behind its enablers. -/
inductive Setting
  | addBundle (type bundle label : String)
  | removeBundle (type bundle : String)
  | registerGroupType (g : GroupType)
  | install (groupType plugin : String) (c : Option Configuration)
  | uninstall (groupType plugin : String)
  | updateConfiguration (groupType plugin : String) (c : Configuration)
  | clear

def Registry.set (r : Registry) : Setting → Registry
  | .addBundle type bundle label => { r with catalog := r.catalog.addBundle type bundle label }
  | .removeBundle type bundle => { r with catalog := r.catalog.removeBundle type bundle }
  | .registerGroupType g => r.registerGroupType g
  | .install groupType plugin c => (r.install groupType plugin c).2
  | .uninstall groupType plugin => (r.uninstall groupType plugin).2
  | .updateConfiguration groupType plugin c => (r.updateConfiguration groupType plugin c).2
  | .clear => r.clear

theorem Registry.step_set (r : Registry) (c : Setting) : r.Step (r.set c) := by
  cases c with
  | addBundle type bundle label => exact .catalog (.addBundle _ type bundle label)
  | removeBundle type bundle => exact .catalog (.removeBundle _ type bundle)
  | registerGroupType g => exact .registerGroupType r g
  | install groupType plugin c => exact .install r groupType plugin c
  | uninstall groupType plugin => exact .uninstall r groupType plugin
  | updateConfiguration groupType plugin c => exact .updateConfiguration r groupType plugin c
  | clear => exact .clear r

inductive Operation
  | setClock (now : Instant)
  | registerType (t : EntityType)
  | setting (c : Setting)
  | saveEntity (e : Entity)
  | createGroup (group : Entity) (creator : Option Entity)
  | addContent (group entity : Entity) (plugin : String)
  | addMember (group user : Entity) (roles : List String)
  | removeContent (r : Relation)
  | deleteGroup (group : Entity)
  | deleteEntity (e : Entity)
  | uninstallPlugin (groupType plugin : String)

/-- The entities that an operation is to bring together. -/
def Operation.handed : Operation → List Entity
  | createGroup _ creator => creator.toList
  | addContent group entity _ => [group, entity]
  | addMember group user _ => [group, user]
  | _ => []

/-- A group is to be created that comes with a name as id. -/
def Operation.namesGroup : Operation → Bool
  | createGroup group _ => (group.id.bind EntityId.name?).isSome
  | _ => false

/-- A plugin is uninstalled, and the relations through it are not deleted. -/
def Operation.abandons : Operation → Bool
  | setting (.uninstall _ _) => true
  | _ => false

namespace Store

variable {s : Store} {P I : Store → Prop} {Q R : Store → Operation → Prop} {ops : List Operation}

def perform (s : Store) : Operation → Store
  | .setClock now => { s with now }
  | .registerType t => { s with types := s.types.register t }
  | .setting c => { s with registry := s.registry.set c }
  | .saveEntity e => (s.saveEntity e).2
  | .createGroup group creator => (s.createGroup group creator).2
  | .addContent group entity plugin => (s.addContent group entity plugin).2
  | .addMember group user roles => (s.addMember group user roles).2
  | .removeContent r => (s.delete r).2
  | .deleteGroup group => (s.deleteGroup group).2
  | .deleteEntity e => (s.deleteEntity e).2
  | .uninstallPlugin groupType plugin => (s.uninstallPlugin groupType plugin).2

/-- The entities that are handed to the operation are stored under their keys. -/
def Knows (s : Store) (op : Operation) : Prop := ∀ e ∈ op.handed, s.entities.HoldsKeyOf e

theorem knows_createGroup_iff {group : Entity} {creator : Option Entity} :
    s.Knows (.createGroup group creator) ↔
      ∀ e, creator = some e → s.entities.HoldsKeyOf e := by
  simp [Knows, Operation.handed]

theorem knows_addContent_iff {group entity : Entity} {plugin : String} :
    s.Knows (.addContent group entity plugin) ↔
      s.entities.HoldsKeyOf group ∧ s.entities.HoldsKeyOf entity := by
  simp [Knows, Operation.handed]

theorem knows_addMember_iff {group user : Entity} {roles : List String} :
    s.Knows (.addMember group user roles) ↔
      s.entities.HoldsKeyOf group ∧ s.entities.HoldsKeyOf user := by
  simp [Knows, Operation.handed]

instance (s : Store) (op : Operation) : Decidable (s.Knows op) :=
  inferInstanceAs (Decidable (∀ e ∈ op.handed, s.entities.HoldsKeyOf e))

/-- All states of the run satisfy `P`, the first and the last one included. -/
def Throughout (P : Store → Prop) (s : Store) : List Operation → Prop
  | [] => P s
  | op :: ops => P s ∧ Throughout P (s.perform op) ops

/-- Each operation of the run satisfies `Q` in the state in which it is performed. -/
def AtEach (Q : Store → Operation → Prop) (s : Store) : List Operation → Prop
  | [] => True
  | op :: ops => Q s op ∧ AtEach Q (s.perform op) ops

instance decidableAtEach [∀ s op, Decidable (Q s op)] (s : Store) :
    (ops : List Operation) → Decidable (s.AtEach Q ops)
  | [] => isTrue trivial
  | op :: ops =>
    have := decidableAtEach (s.perform op) ops
    inferInstanceAs (Decidable (Q s op ∧ AtEach Q (s.perform op) ops))

instance decidableThroughout [DecidablePred P] (s : Store) :
    (ops : List Operation) → Decidable (s.Throughout P ops)
  | [] => inferInstanceAs (Decidable (P s))
  | op :: ops =>
    have := decidableThroughout (s.perform op) ops
    inferInstanceAs (Decidable (P s ∧ Throughout P (s.perform op) ops))

theorem Throughout.head (h : s.Throughout P ops) : P s := by
  cases ops with
  | nil => exact h
  | cons op ops => exact h.1

theorem Throughout.last (h : s.Throughout P ops) : P (ops.foldl perform s) := by
  induction ops generalizing s with
  | nil => exact h
  | cons op ops ih => exact ih h.2

/-- What every operation preserves holds throughout. -/
theorem throughout_of_preserved (hstep : ∀ s op, P s → Q s op → P (s.perform op)) (hs : P s)
    (h : s.AtEach Q ops) : s.Throughout P ops := by
  induction ops generalizing s with
  | nil => exact hs
  | cons op ops ih =>
    obtain ⟨hop, hops⟩ := h
    exact ⟨hs, ih (hstep s op hs hop) hops⟩

theorem Throughout.mono (h : s.Throughout P ops) (hmono : ∀ s, P s → I s) :
    s.Throughout I ops := by
  induction ops generalizing s with
  | nil => exact hmono s h
  | cons op ops ih => exact ⟨hmono s h.1, ih h.2⟩

theorem Throughout.and (h : s.Throughout P ops) (h' : s.Throughout I ops) :
    s.Throughout (fun s => P s ∧ I s) ops := by
  induction ops generalizing s with
  | nil => exact ⟨h, h'⟩
  | cons op ops ih => exact ⟨⟨h.1, h'.1⟩, ih h.2 h'.2⟩

/-- Where an operation keeps to `P` exactly if it satisfies `R`, so does a whole run. -/
theorem throughout_iff_atEach (hkept : ∀ s op, I s → I (s.perform op))
    (hstep : ∀ s op, I s → P s → Q s op → (P (s.perform op) ↔ R s op)) (hI : I s) (hP : P s)
    (h : s.AtEach Q ops) : s.Throughout P ops ↔ s.AtEach R ops := by
  induction ops generalizing s with
  | nil => exact iff_of_true hP trivial
  | cons op ops ih =>
    obtain ⟨hop, hops⟩ := h
    have hiff := hstep s op hI hP hop
    constructor
    · rintro ⟨-, hrest⟩
      exact ⟨hiff.mp hrest.head, (ih (hkept s op hI) hrest.head hops).mp hrest⟩
    · rintro ⟨hr, hrest⟩
      have hnext := hiff.mpr hr
      exact ⟨hP, (ih (hkept s op hI) hnext hops).mpr hrest⟩

/-- Uninstalling a plugin is refused before anything is deleted. Otherwise the relations with its relation
bundle are deleted, and then its configuration. -/
theorem uninstallPlugin_eq (s : Store) (groupType plugin : String) :
    ((s.registry.installedOn groupType).get? plugin = none ∧
      s.uninstallPlugin groupType plugin = (.error (.pluginNotFound plugin), s.warm)) ∨
    ∃ i, (s.registry.installedOn groupType).get? plugin = some i ∧
      s.uninstallPlugin groupType plugin =
        if i.enabler.isEnforced then (.error (Registry.enforcedFailure plugin), s.warm)
        else (.ok (s.warm.deleteByContentType i.contentType).1,
          { (s.warm.deleteByContentType i.contentType).2 with
            registry := (s.registry.warm.unconfigure groupType plugin).clear }) := by
  have hget : s.warm.registry.get groupType plugin = s.registry.get groupType plugin := by
    unfold Registry.get Registry.installedOn
    rw [s.agrees_warm.installed]
  unfold uninstallPlugin
  dsimp only
  rw [hget, Registry.get]
  cases hi : (s.registry.installedOn groupType).get? plugin with
  | none => exact .inl ⟨rfl, rfl⟩
  | some i =>
    refine .inr ⟨i, rfl, ?_⟩
    dsimp only
    split
    · rfl
    · next he =>
      have hregistry : (s.warm.deleteByContentType i.contentType).2.registry = s.registry.warm :=
        s.warm.registry_deleteAll _
      rw [hregistry, Registry.uninstall_of_installed (by rwa [Registry.installedOn_warm]) he,
        Registry.warm_warm]

theorem uninstallPlugin_cases (s : Store) (groupType plugin : String) :
    (s.uninstallPlugin groupType plugin).2 = s.warm ∨
      ∃ rs, (s.uninstallPlugin groupType plugin).2 =
        { (s.warm.deleteAll rs).2 with
          registry := ((s.warm.deleteAll rs).2.registry.uninstall groupType plugin).2 } := by
  rcases s.uninstallPlugin_eq groupType plugin with ⟨-, h⟩ | ⟨i, hi, h⟩
  · exact .inl (congrArg Prod.snd h)
  · by_cases he : i.enabler.isEnforced = true
    · rw [if_pos he] at h
      exact .inl (congrArg Prod.snd h)
    · rw [if_neg he] at h
      have hinstalled : (s.warm.registry.installedOn groupType).get? plugin = some i := by
        rwa [Registry.installedOn, s.agrees_warm.installed]
      refine .inr ⟨s.warm.relations.select { contentTypes := some [i.contentType] }, ?_⟩
      rw [h, registry_deleteAll, Registry.uninstall_of_installed hinstalled he]
      exact congrArg (fun r : Registry => { (s.warm.deleteByContentType i.contentType).2 with
        registry := (r.unconfigure groupType plugin).clear }) s.registry.warm_warm.symm

theorem works_perform {op : Operation} (hc : ∀ c, op ≠ .setting c)
    (hu : ∀ groupType plugin, op ≠ .uninstallPlugin groupType plugin) : s.Works (s.perform op) := by
  cases op with
  | setClock now => exact (Step.setClock s now).works rfl
  | registerType t => exact (Step.registerType s t).works rfl
  | setting c => exact absurd rfl (hc c)
  | saveEntity e => exact s.works_saveEntity e
  | createGroup group creator => exact s.works_createGroup group creator
  | addContent group entity plugin => exact s.works_addContent group entity plugin
  | addMember group user roles => exact s.works_addMember group user roles
  | removeContent r => exact s.works_delete r
  | deleteGroup group => exact s.works_deleteGroup group
  | deleteEntity e => exact s.works_deleteEntity e
  | uninstallPlugin groupType plugin => exact absurd rfl (hu groupType plugin)

/-- An operation works on the store, and a setting may be the last thing that it does. -/
theorem perform_cases (s : Store) (op : Operation) :
    s.Works (s.perform op) ∨
      ∃ s₁ c, s.Works s₁ ∧ s.perform op = { s₁ with registry := s₁.registry.set c } := by
  cases op with
  | setting c => exact .inr ⟨s, c, .refl s, rfl⟩
  | uninstallPlugin groupType plugin =>
    rcases s.uninstallPlugin_cases groupType plugin with h | ⟨rs, h⟩
    · left
      change s.Works (s.uninstallPlugin groupType plugin).2
      rw [h]
      exact s.works_warm
    · exact .inr ⟨(s.warm.deleteAll rs).2, .uninstall groupType plugin,
        s.works_warm.trans (s.warm.works_deleteAll rs), h⟩
  | _ => exact .inl (works_perform nofun nofun)

theorem Reachable.perform (hs : s.Reachable) (op : Operation) : (s.perform op).Reachable := by
  rcases s.perform_cases op with hw | ⟨s₁, c, hw, h⟩
  · exact hs.works hw
  · rw [h]
    exact (hs.works hw).step (.registry (s₁.registry.step_set c))

/-! ## A new site -/

/-- A site with the entity types and enablers that come with the library. -/
def fresh (bundles : Bundles) (now : Instant) : Store := create .standard (.standard bundles) now

theorem Reachable.registerTypes (h : s.Reachable) (l : List EntityType) :
    Reachable { s with types := l.foldl TypeTable.register s.types } := by
  induction l generalizing s with
  | nil => exact h
  | cons t l ih => exact ih (h.step (.registerType s t))

theorem reachable_fresh (bundles : Bundles) (now : Instant) : (fresh bundles now).Reachable := by
  have h := Reachable.create bundles now
  have h := h.step (.registry (.catalog (.register _ .membership)))
  have h := h.step (.registry (.catalog (.registerDerivation _ .media)))
  have h := h.step (.registry (.catalog (.registerDerivation _ .node)))
  have h := h.step (.registry (.catalog (.registerDerivation _ .subgroup)))
  exact h.registerTypes TypeTable.standardTypes

end Store

end Grouping
