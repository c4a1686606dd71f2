import Grouping.Lifecycle
import Grouping.Media.Embed
import Grouping.Media.Paragraphs
import Grouping.Media.Settings

/-! # A site

The store together with what decides about media: the hooks, the finders and the settings.
-/

namespace Grouping

/-- The finders that come with the library. -/
def FinderList.standard : FinderList :=
  [Media.referenceFinder, Media.paragraphsFinder, Media.entityEmbedFinder, Media.mediaEmbedFinder]

structure Site where
  store : Store
  hooks : Hooks
  finders : FinderList
  settings : MediaSettings

namespace Site

/-- Runs an operation of the store. -/
def onStore {α : Type} (s : Site) (f : Store → Outcome Store α) : Outcome Site α :=
  let (answer, store) := f s.store
  (answer, { s with store })

/-- The media that the finders find in an entity. -/
def media (s : Site) (e : Entity) : List Entity × Site :=
  let (found, hooks) := s.finders.process s.store.entities s.hooks e
  (found, { s with hooks })

def alterGroups (s : Site) (groups : List Entity) (e : Entity) : List Entity × Site :=
  let (groups, hooks) := s.hooks.alterGroups groups e
  (groups, { s with hooks })

def shouldAttach (s : Site) (media group : Entity) : Bool × Site :=
  let (allowed, hooks) := s.hooks.shouldAttach media group
  (allowed, { s with hooks })

end Site

end Grouping
