import Grouping.Json.Record
import Grouping.Text.Blank
import Grouping.Toml.Reader

/-! # Settings of media tracking

Settings are read from a TOML document or from JSON, and then overlaid with environment variables that
share a stem. `bundles` is a second name of the excluded bundles; a document may use one of the two.
-/

namespace Grouping

structure MediaSettings where
  tracking : Bool := false
  /-- Media of these bundles is never attached automatically. -/
  excluded : List String := []
  deriving DecidableEq, Inhabited

inductive SettingsFailure where
  | unreadable
  | malformed
  | notBoolean (name value : String)
  deriving DecidableEq, Inhabited

namespace SettingsFailure

/-- What is reported about a value that was understood but is not valid. -/
def message : SettingsFailure → Option String
  | notBoolean name value =>
    some ("Invalid setting: " ++ name ++ " must be a boolean, got '" ++ value ++ "'")
  | unreadable | malformed => none

end SettingsFailure

namespace MediaSettings

def isExcluded (s : MediaSettings) (bundle : String) : Bool := s.excluded.contains bundle

/-! ## Documents -/

def trackingKey : String := "tracking_enabled"

def excludedKey : String := "excluded_bundles"

def excludedAlias : String := "bundles"

def toJson (s : MediaSettings) : Json :=
  .object [(trackingKey, .bool s.tracking), (excludedKey, .ofStrings s.excluded)]

/-- Settings from their two slots. -/
def ofSlots? (tracking excluded : Json.Slot) : Option MediaSettings := do
  let tracking ← tracking.withDefault false Json.bool?
  let excluded ← excluded.withDefault [] Json.strings?
  some { tracking, excluded }

/-- One of a value and the value under the second name; `none` when there are both. -/
def either? {α : Type} : Option α → Option α → Option (Option α)
  | some _, some _ => none
  | a, b => some (a.or b)

def ofJson? : Json.Decode MediaSettings
  | .obj members => do
    let excluded ← either? (Json.lookup excludedKey members) (Json.lookup excludedAlias members)
    ofSlots? (Json.slotOf (Json.lookup trackingKey members)) (Json.slotOf excluded)
  | j => do
    let [tracking, excluded] ← Json.slots [trackingKey, excludedKey] j | none
    ofSlots? tracking excluded

def tomlBool? : Toml.Value → Option Bool
  | .bool b => some b
  | _ => none

def tomlStrings? : Toml.Value → Option (List String)
  | .arr items =>
    items.mapM fun v =>
      match v with
      | .str s => some s
      | _ => none
  | _ => none

def ofTable? (t : Toml.Table) : Option MediaSettings := do
  let excluded ← either? (t.get? excludedKey) (t.get? excludedAlias)
  let tracking ← ((t.get? trackingKey).map tomlBool?).getD (some false)
  let excluded ← (excluded.map tomlStrings?).getD (some [])
  some { tracking, excluded }

def ofToml (text : String) : Except SettingsFailure MediaSettings :=
  match Toml.Reader.parse? text >>= ofTable? with
  | some s => .ok s
  | none => .error .malformed

/-- Settings from the content of a file, if there is such a file. -/
def ofFile (content : Option ByteArray) : Except SettingsFailure MediaSettings :=
  match content.bind String.fromUTF8? with
  | some text => ofToml text
  | none => .error .unreadable

/-! ## Environment variables -/

def defaultStem : String := "GROUPMEDIA_"

def booleanWords : List (String × Bool) :=
  [("1", true), ("true", true), ("yes", true), ("on", true), ("0", false), ("false", false),
    ("no", false), ("off", false), ("", false)]

/-- A truth value: one of a few words, in any letter case, between blanks. -/
def parseBool (name value : String) : Except SettingsFailure Bool :=
  let word := String.ofList ((Text.trim value.toList).map Char.toLower)
  match booleanWords.find? fun w => w.1 = word with
  | some w => .ok w.2
  | none => .error (.notBoolean name word)

/-- The names in a list between commas; blanks around names and empty names do not count. -/
def parseNames (value : String) : List String :=
  (((Text.pieces ',' value.toList).map Text.trim).filter (· ≠ [])).map String.ofList

def trackingVariable (stem : String) : String := stem ++ "TRACKING_ENABLED"

def excludedVariable (stem : String) : String := stem ++ "EXCLUDED_BUNDLES"

/-- The settings after the variables of an environment that are set. -/
def overlay (s : MediaSettings) (stem : String) (environment : String → Option String) :
    Except SettingsFailure MediaSettings := do
  let tracking ←
    match environment (trackingVariable stem) with
    | some value => parseBool (trackingVariable stem) value
    | none => .ok s.tracking
  .ok {
    tracking
    excluded :=
      match environment (excludedVariable stem) with
      | some value => parseNames value
      | none => s.excluded }

end MediaSettings

end Grouping
