import Grouping.Ascending
import Grouping.Enabler.Catalog

/-! # Installed plugins

An installation is an enabler on a group type with its configuration; it backs one relation bundle.
On every group type the enforced enablers are installed, and those that are configured on it and have
a definition.
-/

namespace Grouping

/-- The relation bundle of a plugin on a group type; colons of the plugin id become hyphens. -/
def contentTypeId (groupType plugin : String) : String :=
  groupType ++ "-" ++ String.ofList (plugin.toList.map fun c => if c = ':' then '-' else c)

structure Installation where
  groupType : String
  enabler : Enabler
  configuration : Configuration
  deriving DecidableEq, Inhabited

namespace Installation

def plugin (i : Installation) : String := i.enabler.id

def contentType (i : Installation) : String := contentTypeId i.groupType i.plugin

def groupLimit (i : Installation) : Nat := i.configuration.groupLimit

def entityLimit (i : Installation) : Nat := i.configuration.entityLimit

def tracking (i : Installation) : Bool := i.configuration.tracking

end Installation

/-- The installations on one group type by plugin id, in the order of installation. -/
abbrev InstalledPlugins := OrderedMap String Installation

namespace InstalledPlugins

/-- The enforced enablers, with their stored configuration if there is one. -/
def ofEnforced (groupType : String) (configured : OrderedMap String Configuration)
    (enforced : List Enabler) : InstalledPlugins :=
  enforced.foldl
    (fun m e => m.insert e.id ⟨groupType, e, (configured.get? e.id).getD e.defaults⟩) ∅

/-- Adds a configured plugin, unless it is there already or has no definition. -/
def addConfigured (groupType : String) (definitions : DefinitionTable) (m : InstalledPlugins)
    (c : String × Configuration) : InstalledPlugins :=
  if m.contains c.1 then m
  else
    match definitions.get? c.1 with
    | none => m
    | some e => m.insert c.1 ⟨groupType, e, c.2⟩

def resolve (groupType : String) (definitions : DefinitionTable)
    (configured : OrderedMap String Configuration) : InstalledPlugins :=
  configured.entries.foldl (addConfigured groupType definitions)
    (ofEnforced groupType configured (definitions.values.filter Enabler.isEnforced))

end InstalledPlugins

/-- The installations of all group types, and the indexes over them. -/
structure InstalledMap where
  byGroupType : OrderedMap String InstalledPlugins
  byContentType : OrderedMap String Installation
  contentTypes : OrderedMap String (List String)
  deriving DecidableEq, Inhabited

namespace InstalledMap

def empty : InstalledMap := ⟨∅, ∅, ∅⟩

/-- Enters an installation into the indexes; of two with one relation bundle the later is found. -/
def index (m : InstalledMap) (i : Installation) : InstalledMap :=
  { m with
    byContentType := m.byContentType.insert i.contentType i
    contentTypes := m.contentTypes.insert i.plugin
      (Ascending.insert i.contentType (m.contentTypes.getD i.plugin [])) }

def add (m : InstalledMap) (groupType : String) (plugins : InstalledPlugins) : InstalledMap :=
  let m := plugins.values.foldl index m
  { m with byGroupType := m.byGroupType.insert groupType plugins }

def on (m : InstalledMap) (groupType : String) : InstalledPlugins :=
  m.byGroupType.getD groupType ∅

/-- The ids of all plugins that are installed on some group type. -/
def pluginIds (m : InstalledMap) : List String :=
  Ascending.ofList (m.byGroupType.values.flatMap OrderedMap.keys)

end InstalledMap

end Grouping
