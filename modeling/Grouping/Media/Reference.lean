import Grouping.Media.Finder

/-! # Media in reference fields

An entity refers directly to the stored targets of its fields that refer to media.
-/

namespace Grouping.Media

/-- The keys that the fields of a kind with a target type refer to, in field and item order. -/
def referredKeys (kind : FieldKind) (type : String) (e : Entity) : List EntityKey :=
  (e.fieldList.filter fun f => f.definition.kind = kind && f.definition.targets type).flatMap
    Field.targetKeys

/-- The stored media that the entity refers to. -/
def referred (s : EntityStore) (e : Entity) : List Entity :=
  (referredKeys .reference EntityTypeId.media e).filterMap s.load

def referenceFinder : Finder where
  id := "media_reference"
  label := "Media in entity reference field"
  kinds := [.reference]
  search := Finder.quiet referred

end Grouping.Media
