import Grouping.Bundles
import Grouping.Enabler.Configuration
import Grouping.Relation

/-! # Content enablers

An enabler is a plugin that lets entities of one type, and maybe of one bundle only, join groups. The
id of a plugin that was derived for a bundle is a base id and the bundle, separated by a colon.
-/

namespace Grouping

structure EnablerDefinition where
  id : String
  label : String
  description : String := ""
  entityType : String
  bundle : Option String := none
  /-- Installed on every group type; cannot be uninstalled. -/
  enforced : Bool := false
  referenceLabel : Option String := none
  referenceDescription : Option String := none
  deriving DecidableEq, Inhabited

namespace EnablerDefinition

def derivedId (base derivative : String) : String := base ++ ":" ++ derivative

/-- The part of the id before its first colon. -/
def base (d : EnablerDefinition) : String := String.ofList (d.id.toList.takeWhile (· ≠ ':'))

/-- The part of the id after its first colon. -/
def derivative? (d : EnablerDefinition) : Option String :=
  match d.id.toList.dropWhile (· ≠ ':') with
  | [] => none
  | _ :: r => some (String.ofList r)

def withReference (d : EnablerDefinition) (label description : String) : EnablerDefinition :=
  { d with referenceLabel := some label, referenceDescription := some description }

def toJson (d : EnablerDefinition) : Json :=
  .object [("id", .str d.id), ("label", .str d.label), ("description", .str d.description),
    ("entity_type_id", .str d.entityType), ("entity_bundle", .ofOption .str d.bundle),
    ("enforced", .bool d.enforced), ("reference_label", .ofOption .str d.referenceLabel),
    ("reference_description", .ofOption .str d.referenceDescription)]

def ofJson? : Json.Decode EnablerDefinition := fun j => do
  let [id, label, description, entityType, bundle, enforced, referenceLabel,
      referenceDescription] ←
    Json.slots ["id", "label", "description", "entity_type_id", "entity_bundle", "enforced",
      "reference_label", "reference_description"] j | none
  let id ← id.required Json.string?
  let label ← label.required Json.string?
  let description ← description.required Json.string?
  let entityType ← entityType.required Json.string?
  let bundle ← bundle.optional Json.string?
  let enforced ← enforced.required Json.bool?
  let referenceLabel ← referenceLabel.optional Json.string?
  let referenceDescription ← referenceDescription.optional Json.string?
  some { id, label, description, entityType, bundle, enforced, referenceLabel,
         referenceDescription }

end EnablerDefinition

namespace PluginId

def membership : String := "group_membership"
def mediaBase : String := "group_media"
def nodeBase : String := "group_node"
def subgroupBase : String := "subgroup"

/-- The plugin for media of one bundle. -/
def media (bundle : String) : String := EnablerDefinition.derivedId mediaBase bundle

end PluginId

/-- The enablers that come with the library, a closed set. Enablers that a host adds are not modelled:
which entities an enabler accepts and how it locks a configuration is as below and not overridden. -/
inductive Enabler where
  /-- Users become members, each once per group. -/
  | membership
  /-- Media of one bundle, each item once per group. -/
  | media (bundle label : String)
  /-- Nodes of one bundle. -/
  | node (bundle label : String)
  /-- Entities as a definition says. -/
  | entity (definition : EnablerDefinition)
  deriving DecidableEq, Inhabited

namespace Enabler

def bundleDescription (label : String) : String :=
  "Adds " ++ label ++ " content to groups both publicly and privately."

def definition : Enabler → EnablerDefinition
  | membership =>
    { id := PluginId.membership
      label := "Group membership"
      description := "Adds users to groups as members."
      entityType := EntityTypeId.user
      enforced := true
      referenceLabel := some "Username"
      referenceDescription := some "The user you want to make a member of the group." }
  | media bundle label =>
    { id := PluginId.media bundle
      label := "Group media (" ++ label ++ ")"
      description := bundleDescription label
      entityType := EntityTypeId.media
      bundle := some bundle
      referenceLabel := some "Title"
      referenceDescription := some "The title of the media to add to the group" }
  | node bundle label =>
    { id := EnablerDefinition.derivedId PluginId.nodeBase bundle
      label := "Group node (" ++ label ++ ")"
      description := bundleDescription label
      entityType := EntityTypeId.node
      bundle := some bundle
      referenceLabel := some "Title"
      referenceDescription := some "The title of the node to add to the group" }
  | entity d => d

/-- Groups of one type as content of other groups. -/
def subgroup (groupType label : String) : Enabler :=
  .entity
    { id := EnablerDefinition.derivedId PluginId.subgroupBase groupType
      label := "Subgroup (" ++ label ++ ")"
      entityType := EntityTypeId.group
      bundle := some groupType
      referenceLabel := some "Group name"
      referenceDescription := some "The name of the group to add as a subgroup" }

def id (e : Enabler) : String := e.definition.id

def entityType (e : Enabler) : String := e.definition.entityType

def bundle (e : Enabler) : Option String := e.definition.bundle

def isEnforced (e : Enabler) : Bool := e.definition.enforced

/-- The configuration that an installation starts from. -/
def defaults : Enabler → Configuration
  | membership | media _ _ => { entityLimit := 1 }
  | node _ _ | entity _ => {}

/-- Forces the values that the plugin depends on. -/
def lock (e : Enabler) (c : Configuration) : Configuration :=
  match e with
  | membership | media _ _ => { c with entityLimit := 1 }
  | node _ _ | entity _ => c

/-- The plugin takes this entity as content. -/
def accepts (e : Enabler) (x : Entity) : Bool :=
  x.type = e.entityType && e.bundle.all fun b => b = x.bundle

/-- The label of a relation to `target`. -/
def contentLabel (_ : Enabler) (target : Entity) : String := target.displayLabel

/-- The settings of the field that refers to the target. -/
def referenceSettings (e : Enabler) : List (String × Json) :=
  ("target_type", .str e.entityType) ::
    match e.bundle with
    | none => []
    | some b => [("handler_settings", .object [("target_bundles", .arr [.str b])])]

/-- The field of the relation bundle, for targets kept in the given column. -/
def referenceField (e : Enabler) (column : TargetColumn) : ReferenceField :=
  let base := ReferenceField.forType column e.entityType
  let field :=
    { base with
      label := e.definition.referenceLabel.getD base.label
      description := e.definition.referenceDescription.getD base.description }
  e.referenceSettings.foldl (fun f s => f.withSetting s.1 s.2) field

theorem lock_defaults (e : Enabler) : e.lock e.defaults = e.defaults := by
  cases e <;> rfl

end Enabler

/-- A rule that makes one enabler for each bundle of some entity type. -/
inductive Derivation where
  | media
  | node
  | subgroup
  deriving DecidableEq, Inhabited

namespace Derivation

def base : Derivation → String
  | media => PluginId.mediaBase
  | node => PluginId.nodeBase
  | subgroup => PluginId.subgroupBase

def entityType : Derivation → String
  | media => EntityTypeId.media
  | node => EntityTypeId.node
  | subgroup => EntityTypeId.group

def enabler : Derivation → String → String → Enabler
  | media => .media
  | node => .node
  | subgroup => .subgroup

def enablers (d : Derivation) (b : Bundles) : List Enabler :=
  (b.of d.entityType).entries.map fun e => d.enabler e.1 e.2

end Derivation

end Grouping
