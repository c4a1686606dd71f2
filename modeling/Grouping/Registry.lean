import Grouping.Installation

/-! # The registry of group types and their plugins

The map of installations is computed when it is first read and kept until the registry changes. A
change of the catalog behind it does not empty the cache: until `clear` the map may be out of date.
`resolve` is the map as it should be, `installed` the map as it is read.
-/

namespace Grouping

/-- What an operation answers, and the state after it. -/
abbrev Outcome (σ α : Type) : Type := Except Failure α × σ

structure Registry where
  catalog : Catalog
  groupTypes : OrderedMap String GroupType
  /-- Configured plugins by group type. -/
  configured : OrderedMap String (OrderedMap String Configuration)
  cached : Option InstalledMap
  deriving DecidableEq, Inhabited

namespace Registry

def ofCatalog (catalog : Catalog) : Registry := ⟨catalog, ∅, ∅, none⟩

def clear (r : Registry) : Registry := { r with cached := none }

/-- The plugins configured on a group type. -/
def configuredOn (r : Registry) (groupType : String) : OrderedMap String Configuration :=
  r.configured.getD groupType ∅

def resolveOn (r : Registry) (groupType : String) : InstalledPlugins :=
  .resolve groupType r.catalog.definitions (r.configuredOn groupType)

def resolve (r : Registry) : InstalledMap :=
  r.groupTypes.keys.foldl (fun m g => m.add g (r.resolveOn g)) .empty

def installed (r : Registry) : InstalledMap := r.cached.getD r.resolve

/-- The registry after its map was read. -/
def warm (r : Registry) : Registry :=
  match r.cached with
  | some _ => r
  | none => { r with cached := some r.resolve, catalog := r.catalog.warm }

@[simp]
theorem installed_warm (r : Registry) : r.warm.installed = r.installed := by
  unfold warm installed
  split
  · rfl
  · next h => rw [h]; rfl

def groupType (r : Registry) (id : String) : Except Failure GroupType :=
  match r.groupTypes.get? id with
  | some g => .ok g
  | none => .error (.groupTypeNotFound id)

def installedOn (r : Registry) (groupType : String) : InstalledPlugins := r.installed.on groupType

@[simp]
theorem installedOn_warm (r : Registry) (g : String) : r.warm.installedOn g = r.installedOn g := by
  unfold installedOn
  rw [installed_warm]

def has (r : Registry) (groupType plugin : String) : Bool := (r.installedOn groupType).contains plugin

def get (r : Registry) (groupType plugin : String) : Except Failure Installation :=
  match (r.installedOn groupType).get? plugin with
  | some i => .ok i
  | none => .error (.pluginNotFound plugin)

/-- The installation behind a relation bundle. -/
def ofContentType? (r : Registry) (contentType : String) : Option Installation :=
  r.installed.byContentType.get? contentType

/-- The relation bundles of a plugin. -/
def contentTypesOf (r : Registry) (plugin : String) : List String :=
  r.installed.contentTypes.getD plugin []

/-- Adds or replaces a group type, which becomes a bundle of groups. -/
def registerGroupType (r : Registry) (g : GroupType) : Registry :=
  clear { r with
    catalog := r.catalog.addBundle EntityTypeId.group g.id g.label
    configured := r.configured.insert g.id (r.configuredOn g.id)
    groupTypes := r.groupTypes.insert g.id g }

def configure (r : Registry) (groupType plugin : String) (c : Configuration) : Registry :=
  { r with configured := r.configured.insert groupType ((r.configuredOn groupType).insert plugin c) }

/-- Drops the configuration of a plugin on a known group type. -/
def unconfigure (r : Registry) (groupType plugin : String) : Registry :=
  match r.configured.get? groupType with
  | none => r
  | some c => { r with configured := r.configured.insert groupType (c.erase plugin) }

@[simp]
theorem catalog_unconfigure (r : Registry) (groupType plugin : String) :
    (r.unconfigure groupType plugin).catalog = r.catalog := by
  unfold unconfigure
  split
  · rfl
  · rfl

@[simp]
theorem groupTypes_unconfigure (r : Registry) (groupType plugin : String) :
    (r.unconfigure groupType plugin).groupTypes = r.groupTypes := by
  unfold unconfigure
  split
  · rfl
  · rfl

@[simp]
theorem cached_unconfigure (r : Registry) (groupType plugin : String) :
    (r.unconfigure groupType plugin).cached = r.cached := by
  unfold unconfigure
  split
  · rfl
  · rfl

@[simp]
theorem configuredOn_clear (r : Registry) (g : String) : r.clear.configuredOn g = r.configuredOn g :=
  rfl

@[simp]
theorem groupTypes_warm (r : Registry) : r.warm.groupTypes = r.groupTypes := by
  unfold warm
  split
  · rfl
  · rfl

@[simp]
theorem definitions_warm (r : Registry) : r.warm.catalog.definitions = r.catalog.definitions := by
  unfold warm
  split
  · rfl
  · rfl

@[simp]
theorem configured_warm (r : Registry) : r.warm.configured = r.configured := by
  unfold warm
  split
  · rfl
  · rfl

@[simp]
theorem configuredOn_warm (r : Registry) (g : String) : r.warm.configuredOn g = r.configuredOn g := by
  unfold configuredOn
  rw [configured_warm]

@[simp]
theorem configuredOn_registerGroupType (r : Registry) (t : GroupType) (g : String) :
    (r.registerGroupType t).configuredOn g = r.configuredOn g := by
  simp only [registerGroupType, clear, configuredOn, OrderedMap.getD, OrderedMap.get?_insert]
  split
  · next h => rw [h, Option.getD_some]
  · rfl

theorem configuredOn_configure (r : Registry) (groupType plugin : String) (c : Configuration)
    (g : String) :
    (r.configure groupType plugin c).configuredOn g =
      if groupType = g then (r.configuredOn g).insert plugin c else r.configuredOn g := by
  simp only [configure, configuredOn, OrderedMap.getD, OrderedMap.get?_insert]
  split
  · next h => rw [h, Option.getD_some]
  · rfl

theorem configuredOn_unconfigure (r : Registry) (groupType plugin g : String) :
    (r.unconfigure groupType plugin).configuredOn g =
      if groupType = g then (r.configuredOn g).erase plugin else r.configuredOn g := by
  unfold unconfigure
  split
  · next h =>
    split
    · next hg =>
      subst hg
      rw [configuredOn, OrderedMap.getD, h]
      rfl
    · rfl
  · next c h =>
    simp only [configuredOn, OrderedMap.getD, OrderedMap.get?_insert]
    split
    · next hg => rw [← hg, h, Option.getD_some, Option.getD_some]
    · rfl

/-- Reads the map afresh and looks a plugin up in it. -/
def reread (r : Registry) (groupType plugin : String) : Outcome Registry Installation :=
  let r := r.clear.warm
  (r.get groupType plugin, r)

/-- Installs a plugin; without a configuration it gets the enabler's own. Locked values are forced. -/
def install (r : Registry) (groupType plugin : String) (c : Option Configuration) :
    Outcome Registry Installation :=
  match r.groupType groupType with
  | .error e => (.error e, r)
  | .ok _ =>
    let r := { r with catalog := r.catalog.warm }
    match r.catalog.require plugin with
    | .error e => (.error e, r)
    | .ok enabler =>
      let r := r.warm
      if r.has groupType plugin then (.error (.pluginAlreadyInstalled groupType plugin), r)
      else (r.configure groupType plugin (enabler.lock (c.getD enabler.defaults))).reread groupType
        plugin

def enforcedFailure (plugin : String) : Failure :=
  .invalidPlugin (plugin ++ " is enforced and cannot be uninstalled")

def uninstall (r : Registry) (groupType plugin : String) : Outcome Registry Unit :=
  let r := r.warm
  match r.get groupType plugin with
  | .error e => (.error e, r)
  | .ok i =>
    if i.enabler.isEnforced then (.error (enforcedFailure plugin), r)
    else (.ok (), (r.unconfigure groupType plugin).clear)

/-- Replaces the configuration of an installed plugin. -/
def updateConfiguration (r : Registry) (groupType plugin : String) (c : Configuration) :
    Outcome Registry Installation :=
  let r := r.warm
  match r.get groupType plugin with
  | .error e => (.error e, r)
  | .ok i => (r.configure groupType plugin (i.enabler.lock c)).reread groupType plugin

end Registry

end Grouping
