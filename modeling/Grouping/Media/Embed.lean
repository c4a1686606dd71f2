import Grouping.Markup.Fragment
import Grouping.Media.Finder
import Grouping.Selector.Reader

/-! # Media embedded in texts

An embed is an element of a formatted text that names a media entity by its unique identifier. Embeds
that name nothing stored are passed over, and the inclusion hook is asked about every other one. Each
media entity is found once, at its first embed that the hook allows.
-/

namespace Grouping.Media

namespace Embed

def uuidAttribute : String := "data-entity-uuid"

/-- Describes the embeds made with an element. -/
def selectorText (element : String) : String :=
  element ++ "[data-entity-type=\"media\"][" ++ uuidAttribute ++ "]"

/-- The identifiers in the embeds of a text. An element that is no selector makes no embeds. -/
def uuidTexts (element : String) : String → List String :=
  match Selector.parse? (selectorText element) with
  | none => fun _ => []
  | some s => fun text =>
    (s.select (Markup.Dom.ofFragment text)).filterMap fun e => e.value? uuidAttribute

/-- The text of an item that is searched. The summary is part of it in fields that have one; an item
with an empty body is passed over. -/
def itemText (kind : FieldKind) : FieldItem → Option String
  | .text body summary _ =>
    if body = "" then none
    else some (body ++ if kind = .summaryText then summary.getD "" else "")
  | _ => none

def fieldTexts (f : Field) : List String :=
  if f.definition.kind.isFormattedText then f.items.filterMap (itemText f.definition.kind) else []

/-- A media entity and the name of the field that embeds it. -/
abbrev Occurrence := Entity × String

/-- The stored media that a text embeds, once for each embed. -/
def embedded (read : String → List String) (s : EntityStore) (text : String) : List Entity :=
  (read text).filterMap fun u => (Uuid.parse? u).bind (s.loadByUuid EntityTypeId.media)

def occurrences (read : String → List String) (s : EntityStore) (e : Entity) : List Occurrence :=
  e.fieldList.flatMap fun f =>
    (fieldTexts f).flatMap fun text =>
      (embedded read s text).map fun m => (m, f.definition.name)

/-- Keeps what the hook allows and what was not found before. -/
def keep (host : Entity) (found : List EntityKey) (h : Hooks) :
    List Occurrence → List Entity × Hooks
  | [] => ([], h)
  | (m, field) :: r =>
    match h.shouldInclude m host field, m.key? with
    | (true, h), some k =>
      if k ∈ found then keep host found h r
      else
        let (rest, h) := keep host (k :: found) h r
        (m :: rest, h)
    | (_, h), _ => keep host found h r

def search (read : String → List String) : Search := fun s h e =>
  keep e [] h (occurrences read s e)

def finder (id label element : String) : Finder where
  id := id
  label := label
  kinds := [.text, .longText, .summaryText]
  search := search (uuidTexts element)

end Embed

def entityElement : String := "drupal-entity"

def mediaElement : String := "drupal-media"

def entityEmbedFinder : Finder :=
  Embed.finder "groupmedia_entity_embed" "Groupmedia: Entity Embed" entityElement

def mediaEmbedFinder : Finder :=
  Embed.finder "groupmedia_media_embed" "Groupmedia: Media WYSIWYG Embed (Core)" mediaElement

end Grouping.Media
