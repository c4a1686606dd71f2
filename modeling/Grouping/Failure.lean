/-! # Refused operations

Every failure is a precondition that the caller did not meet. Limits on the number of relations are
never failures; they are reported as violations.
-/

namespace Grouping

inductive Failure where
  | unsavedGroup (message : String)
  | unsavedEntity (message : String)
  | invalidPlugin (message : String)
  | bundleMismatch (plugin bundle : String)
  | pluginNotFound (plugin : String)
  | pluginAlreadyInstalled (groupType plugin : String)
  | groupTypeNotFound (groupType : String)
  | unknownEntityType (type : String)
  | notAGroup (entity : String)
  | groupImmutable (relation : Int) (group newGroup : Int64)
  | missingName (type : String)
  | relationNotFound (relation : Int)
  | storage (message : String)
  deriving DecidableEq, Inhabited

namespace Failure

def message : Failure → String
  | unsavedGroup m => m
  | unsavedEntity m => m
  | invalidPlugin m => m
  | bundleMismatch p b =>
    "The provided plugin " ++ p ++ " does not support the entity's bundle " ++ b
  | pluginNotFound p => "Content enabler plugin not found: " ++ p
  | pluginAlreadyInstalled g p => "Plugin " ++ p ++ " is already installed on group type " ++ g
  | groupTypeNotFound g => "Group type not found: " ++ g
  | unknownEntityType t => "Unknown entity type: " ++ t
  | notAGroup e => "Entity " ++ e ++ " is not a group"
  | groupImmutable r g n =>
    "Group content " ++ toString r ++ " belongs to group " ++ toString g.toInt ++
      " and cannot be moved to group " ++ toString n.toInt
  | missingName t => "Entities of type " ++ t ++ " need an explicit string id before saving"
  | relationNotFound r => "Group content not found: " ++ toString r
  | storage m => "Storage error: " ++ m

/-- The failure is about a group or entity that was never saved. -/
def isUnsaved : Failure → Bool
  | unsavedGroup _ | unsavedEntity _ => true
  | _ => false

end Failure

end Grouping
