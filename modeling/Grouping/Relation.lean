import Grouping.Reference
import Grouping.Instant.Rfc3339

/-! # Relations

A relation links a group to a target entity through a plugin. It is a draft until a table gives it an
id. The group of a relation is fixed when it is drafted.
-/

namespace Grouping

structure Target where
  column : TargetColumn
  key : EntityKey
  deriving DecidableEq, Inhabited

namespace Target

def toJson (t : Target) : Json :=
  .object [("field", t.column.toJson), ("entity_type", .str t.key.type),
    ("target_id", t.key.id.toJson)]

def ofJson? : Json.Decode Target := fun j => do
  let [column, type, id] ← Json.slots ["field", "entity_type", "target_id"] j | none
  let column ← column.required TargetColumn.ofJson?
  let type ← type.required Json.string?
  let id ← id.required EntityId.ofJson?
  some ⟨column, ⟨type, id⟩⟩

end Target

structure Relation where
  /-- The row, for which a table gave the id. Tables count rows one by one and nobody moves their count,
  so that the 64 bits of an id do not run out; here it is not bounded. -/
  id : Option Int
  uuid : Uuid
  group : Int64
  groupType : String
  /-- The relation bundle that the plugin's installation backs. -/
  contentType : String
  plugin : String
  target : Target
  owner : Option Int64
  label : String
  roles : List String
  created : Instant
  changed : Instant
  deriving DecidableEq, Inhabited

namespace Relation

def draft (uuid : Uuid) (now : Instant) (group : Int64) (groupType contentType plugin : String)
    (target : Target) : Relation :=
  { id := none, uuid, group, groupType, contentType, plugin, target, owner := none, label := "",
    roles := [], created := now, changed := now }

def key (r : Relation) : EntityKey := r.target.key

def isDraft (r : Relation) : Bool := r.id.isNone

def instant? : Json.Decode Instant := fun j => (Json.string? j).bind Instant.parse?

def toJson (r : Relation) : Json :=
  .object [("id", .ofOption .int r.id), ("uuid", .str r.uuid.text),
    ("group_id", .int r.group.toInt), ("group_type", .str r.groupType),
    ("content_type_id", .str r.contentType), ("plugin_id", .str r.plugin),
    ("target", r.target.toJson),
    ("owner_id", .ofOption (fun (n : Int64) => .int n.toInt) r.owner), ("label", .str r.label),
    ("group_roles", .ofStrings r.roles), ("created", .str r.created.text),
    ("changed", .str r.changed.text)]

def ofJson? : Json.Decode Relation := fun j => do
  let [id, uuid, group, groupType, contentType, plugin, target, owner, label, roles, created,
      changed] ←
    Json.slots ["id", "uuid", "group_id", "group_type", "content_type_id", "plugin_id", "target",
      "owner_id", "label", "group_roles", "created", "changed"] j | none
  let id ← id.optional Json.int64?
  let uuid ← uuid.required Entity.uuid?
  let group ← group.required FieldItem.int64?
  let groupType ← groupType.required Json.string?
  let contentType ← contentType.required Json.string?
  let plugin ← plugin.required Json.string?
  let target ← target.required Target.ofJson?
  let owner ← owner.optional FieldItem.int64?
  let label ← label.required Json.string?
  let roles ← roles.required Json.strings?
  let created ← created.required instant?
  let changed ← changed.required instant?
  some { id, uuid, group, groupType, contentType, plugin, target, owner, label, roles, created,
         changed }

end Relation

end Grouping
