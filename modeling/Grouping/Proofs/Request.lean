import Grouping.Proofs.Resolution

/-! # Requests to a registry

What can be asked of a registry and of the catalog behind it, changes and reads alike. A run is a list
of requests; one that is refused does not end it.
-/

namespace Grouping

inductive CatalogChange
  | register (e : Enabler)
  | registerDerivation (d : Derivation)
  | addBundle (type bundle label : String)
  | removeBundle (type bundle : String)

inductive CatalogQuery
  | definitions
  | definition (plugin : String)
  | enforced

inductive RegistryQuery
  | plugins (groupType : String)
  | pluginIds
  | has (groupType plugin : String)
  | get (groupType plugin : String)
  | contentTypes (plugin : String)
  | ofContentType (contentType : String)

inductive Request
  | change (q : CatalogChange)
  | definition (q : CatalogQuery)
  | registerGroupType (g : GroupType)
  | install (groupType plugin : String) (c : Option Configuration)
  | uninstall (groupType plugin : String)
  | updateConfiguration (groupType plugin : String) (c : Configuration)
  | installation (q : RegistryQuery)
  | clear

inductive Answer
  | done
  | flag (b : Bool)
  | names (l : List String)
  | table (t : DefinitionTable)
  | enabler (e : Enabler)
  | enablers (l : List Enabler)
  | plugins (m : InstalledPlugins)
  | installation (i : Installation)
  | found (i : Option Installation)
  | failed (f : Failure)
  deriving DecidableEq

def Answer.ofExcept {α : Type} (answer : α → Answer) : Except Failure α → Answer
  | .ok a => answer a
  | .error f => .failed f

theorem Answer.ofExcept_eq_failed_iff {α : Type} {answer : α → Answer} {x : Except Failure α}
    {f : Failure} (h : ∀ a, answer a ≠ .failed f) : ofExcept answer x = .failed f ↔ x = .error f := by
  cases x with
  | ok a => exact iff_of_false (h a) nofun
  | error e => simp [ofExcept]

namespace Catalog

def change (c : Catalog) : CatalogChange → Answer × Catalog
  | .register e => (.done, c.register e)
  | .registerDerivation d => (.done, c.registerDerivation d)
  | .addBundle type bundle label => (.done, c.addBundle type bundle label)
  | .removeBundle type bundle => (.flag (c.bundles.has type bundle), c.removeBundle type bundle)

def answer (c : Catalog) : CatalogQuery → Answer
  | .definitions => .table c.definitions
  | .definition plugin => .ofExcept .enabler (c.require plugin)
  | .enforced => .enablers c.enforced

theorem step_change (c : Catalog) (q : CatalogChange) : c.Step (c.change q).2 := by
  cases q with
  | register e => exact .register c e
  | registerDerivation d => exact .registerDerivation c d
  | addBundle type bundle label => exact .addBundle c type bundle label
  | removeBundle type bundle => exact .removeBundle c type bundle

end Catalog

namespace Registry

variable {r : Registry}

def answer (r : Registry) : RegistryQuery → Answer
  | .plugins g => .plugins (r.installedOn g)
  | .pluginIds => .names r.installed.pluginIds
  | .has g plugin => .flag (r.has g plugin)
  | .get g plugin => .ofExcept .installation (r.get g plugin)
  | .contentTypes plugin => .names (r.contentTypesOf plugin)
  | .ofContentType contentType => .found (r.ofContentType? contentType)

def respond (r : Registry) : Request → Answer × Registry
  | .change q => ((r.catalog.change q).1, { r with catalog := (r.catalog.change q).2 })
  | .definition q => (r.catalog.answer q, r.warmCatalog)
  | .registerGroupType g => (.done, r.registerGroupType g)
  | .install g plugin c => (.ofExcept .installation (r.install g plugin c).1, (r.install g plugin c).2)
  | .uninstall g plugin => (.ofExcept (fun _ => .done) (r.uninstall g plugin).1,
      (r.uninstall g plugin).2)
  | .updateConfiguration g plugin c => (.ofExcept .installation (r.updateConfiguration g plugin c).1,
      (r.updateConfiguration g plugin c).2)
  | .installation q => (r.answer q, r.warm)
  | .clear => (.done, r.clear)

/-- The registry after a run. -/
def after (r : Registry) (qs : List Request) : Registry := qs.foldl (fun r q => (r.respond q).2) r

def answers (r : Registry) : List Request → List Answer
  | [] => []
  | q :: qs => (r.respond q).1 :: answers (r.respond q).2 qs

theorem step_respond (r : Registry) (q : Request) : r.Step (r.respond q).2 := by
  cases q with
  | change q => exact .catalog (r.catalog.step_change q)
  | definition q => exact .catalog (.warm r.catalog)
  | registerGroupType g => exact .registerGroupType r g
  | install g plugin c => exact .install r g plugin c
  | uninstall g plugin => exact .uninstall r g plugin
  | updateConfiguration g plugin c => exact .updateConfiguration r g plugin c
  | installation q => exact .warm r
  | clear => exact .clear r

theorem moves_respond (r : Registry) {q : Request} (hq : ∀ c, q ≠ .change c) :
    r.Moves (r.respond q).2 := by
  cases q with
  | change c => exact absurd rfl (hq c)
  | definition q => exact .single (.warmCatalog r)
  | registerGroupType g => exact .single (.registerGroupType r g)
  | install g plugin c => exact r.moves_install g plugin c
  | uninstall g plugin => exact r.moves_uninstall g plugin
  | updateConfiguration g plugin c => exact r.moves_updateConfiguration g plugin c
  | installation q => exact .single (.warm r)
  | clear => exact .single (.clear r)

theorem reachable_standard (bundles : Bundles) : (ofCatalog (.standard bundles)).Reachable := by
  have h := Reachable.create bundles
  have h := h.step (.catalog (.register _ .membership))
  have h := h.step (.catalog (.registerDerivation _ .media))
  have h := h.step (.catalog (.registerDerivation _ .node))
  exact h.step (.catalog (.registerDerivation _ .subgroup))

theorem Reachable.respond (h : r.Reachable) (q : Request) : (r.respond q).2.Reachable :=
  h.step (r.step_respond q)

theorem Reachable.after (h : r.Reachable) (qs : List Request) : (r.after qs).Reachable := by
  induction qs generalizing r with
  | nil => exact h
  | cons q qs ih => exact ih (h.respond q)

end Registry

end Grouping
