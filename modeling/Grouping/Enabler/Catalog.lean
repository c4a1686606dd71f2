import Grouping.Enabler
import Grouping.Failure

/-! # The catalog of enablers

Enablers are registered one by one or derived from the known bundles. `resolve` computes the table of
all of them; `definitions` takes it from the cache if it is there. Every change of the catalog that
can change the table empties the cache.
-/

namespace Grouping

/-- Enablers by plugin id. -/
abbrev DefinitionTable := OrderedMap String Enabler

structure Catalog where
  bundles : Bundles
  enablers : List Enabler
  derivations : List Derivation
  cached : Option DefinitionTable
  deriving DecidableEq, Inhabited

namespace Catalog

def ofBundles (bundles : Bundles) : Catalog := ⟨bundles, [], [], none⟩

def clear (c : Catalog) : Catalog := { c with cached := none }

def register (c : Catalog) (e : Enabler) : Catalog :=
  clear { c with enablers := c.enablers ++ [e] }

def registerDerivation (c : Catalog) (d : Derivation) : Catalog :=
  clear { c with derivations := c.derivations ++ [d] }

/-- The enablers that come with the library: membership, and media, nodes and subgroups by bundle. -/
def standard (bundles : Bundles) : Catalog :=
  [Derivation.media, .node, .subgroup].foldl registerDerivation
    ((ofBundles bundles).register .membership)

def addBundle (c : Catalog) (type bundle label : String) : Catalog :=
  clear { c with bundles := c.bundles.add type bundle label }

def removeBundle (c : Catalog) (type bundle : String) : Catalog :=
  if c.bundles.has type bundle then clear { c with bundles := c.bundles.remove type bundle } else c

/-- Registered enablers first, then the derived ones in the order of the derivations. -/
def all (c : Catalog) : List Enabler :=
  c.enablers ++ c.derivations.flatMap fun d => d.enablers c.bundles

/-- The table of all enablers; of two with one id the later takes the place of the earlier. -/
def resolve (c : Catalog) : DefinitionTable := .ofList (c.all.map fun e => (e.id, e))

def definitions (c : Catalog) : DefinitionTable := c.cached.getD c.resolve

/-- The catalog after its table was read. -/
def warm (c : Catalog) : Catalog := { c with cached := some c.definitions }

def get? (c : Catalog) (plugin : String) : Option Enabler := c.definitions.get? plugin

def require (c : Catalog) (plugin : String) : Except Failure Enabler :=
  match c.get? plugin with
  | some e => .ok e
  | none => .error (.pluginNotFound plugin)

/-- The enablers that are installed on every group type. -/
def enforced (c : Catalog) : List Enabler := c.definitions.values.filter Enabler.isEnforced

@[simp]
theorem definitions_warm (c : Catalog) : c.warm.definitions = c.definitions := rfl

end Catalog

end Grouping
