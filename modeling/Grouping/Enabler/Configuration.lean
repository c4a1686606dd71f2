import Grouping.Json.Record

/-! # Configurations of installed plugins

A limit of `0` means that there is no limit.
-/

namespace Grouping

structure Configuration where
  /-- The number of groups that an entity may join through the plugin. -/
  groupLimit : Nat := 0
  /-- The number of times that an entity may be in one group through the plugin. -/
  entityLimit : Nat := 0
  /-- Discovered media is attached automatically. -/
  tracking : Bool := false
  wizard : Bool := false
  infoText : String := ""
  deriving DecidableEq, Inhabited

namespace Configuration

def isUnlimited (c : Configuration) : Bool := c.groupLimit = 0 && c.entityLimit = 0

def toJson (c : Configuration) : Json :=
  .object [("group_cardinality", .int c.groupLimit), ("entity_cardinality", .int c.entityLimit),
    ("tracking_enabled", .bool c.tracking), ("use_creation_wizard", .bool c.wizard),
    ("info_text", .str c.infoText)]

def ofJson? : Json.Decode Configuration := fun j => do
  let [groupLimit, entityLimit, tracking, wizard, infoText] ←
    Json.slots ["group_cardinality", "entity_cardinality", "tracking_enabled",
      "use_creation_wizard", "info_text"] j | none
  let groupLimit ← groupLimit.withDefault 0 Json.nat32?
  let entityLimit ← entityLimit.withDefault 0 Json.nat32?
  let tracking ← tracking.withDefault false Json.bool?
  let wizard ← wizard.withDefault false Json.bool?
  let infoText ← infoText.withDefault "" Json.string?
  some { groupLimit, entityLimit, tracking, wizard, infoText }

end Configuration

end Grouping
