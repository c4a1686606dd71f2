import Grouping.Installation
import Grouping.Text.Quoted

/-! # Descriptions of installations

An installation described on one line for people who look for faults: each value by the name of its
field, texts in quotes.
-/

namespace Grouping

/-- A record on one line. -/
def describeRecord (name : String) (fields : List (String × String)) : String :=
  name ++ " \x7b " ++ ", ".intercalate (fields.map fun f => f.1 ++ ": " ++ f.2) ++ " \x7d"

def describeBool (b : Bool) : String := if b then "true" else "false"

def Configuration.describe (c : Configuration) : String :=
  describeRecord "EnablerConfiguration"
    [("group_cardinality", toString c.groupLimit), ("entity_cardinality", toString c.entityLimit),
      ("tracking_enabled", describeBool c.tracking),
      ("use_creation_wizard", describeBool c.wizard), ("info_text", Text.quoted c.infoText)]

def Installation.describe (i : Installation) : String :=
  describeRecord "PluginInstance"
    [("plugin_id", Text.quoted i.plugin), ("group_type", Text.quoted i.groupType),
      ("content_type_id", Text.quoted i.contentType),
      ("configuration", i.configuration.describe)]

end Grouping
