import Grouping.Proofs.Request

/-! # A registry that remembers nothing

The same registry and catalog without their memory: the table of definitions and the map of
installations are computed at every use. Where a change of the catalog is followed by `clear` before the
registry is asked again, the two cannot be told apart by their answers.
-/

namespace Grouping

structure Uncached where
  bundles : Bundles
  enablers : List Enabler
  derivations : List Derivation
  groupTypes : OrderedMap String GroupType
  configured : OrderedMap String (OrderedMap String Configuration)
  deriving DecidableEq

namespace Uncached

def definitions (u : Uncached) : DefinitionTable :=
  .ofList ((u.enablers ++ u.derivations.flatMap fun d => d.enablers u.bundles).map fun e => (e.id, e))

def configuredOn (u : Uncached) (g : String) : OrderedMap String Configuration :=
  u.configured.getD g ∅

def installed (u : Uncached) : InstalledMap :=
  u.groupTypes.keys.foldl
    (fun m g => m.add g (.resolve g u.definitions (u.configuredOn g))) .empty

def definition (u : Uncached) (plugin : String) : Answer :=
  match u.definitions.get? plugin with
  | some e => .enabler e
  | none => .failed (.pluginNotFound plugin)

def installation (u : Uncached) (g plugin : String) : Answer :=
  match (u.installed.on g).get? plugin with
  | some i => .installation i
  | none => .failed (.pluginNotFound plugin)

def answerDefinition (u : Uncached) : CatalogQuery → Answer
  | .definitions => .table u.definitions
  | .definition plugin => u.definition plugin
  | .enforced => .enablers (u.definitions.values.filter Enabler.isEnforced)

def answerInstallation (u : Uncached) : RegistryQuery → Answer
  | .plugins g => .plugins (u.installed.on g)
  | .pluginIds => .names u.installed.pluginIds
  | .has g plugin => .flag ((u.installed.on g).contains plugin)
  | .get g plugin => u.installation g plugin
  | .contentTypes plugin => .names (u.installed.contentTypes.getD plugin [])
  | .ofContentType contentType => .found (u.installed.byContentType.get? contentType)

def change (u : Uncached) : CatalogChange → Answer × Uncached
  | .register e => (.done, { u with enablers := u.enablers ++ [e] })
  | .registerDerivation d => (.done, { u with derivations := u.derivations ++ [d] })
  | .addBundle type bundle label => (.done, { u with bundles := u.bundles.add type bundle label })
  | .removeBundle type bundle =>
    (.flag (u.bundles.has type bundle), { u with bundles := u.bundles.remove type bundle })

def registerGroupType (u : Uncached) (g : GroupType) : Uncached :=
  { u with
    bundles := u.bundles.add EntityTypeId.group g.id g.label
    configured := u.configured.insert g.id (u.configuredOn g.id)
    groupTypes := u.groupTypes.insert g.id g }

def configure (u : Uncached) (g plugin : String) (c : Configuration) : Uncached :=
  { u with configured := u.configured.insert g ((u.configuredOn g).insert plugin c) }

def unconfigure (u : Uncached) (g plugin : String) : Uncached :=
  match u.configured.get? g with
  | none => u
  | some c => { u with configured := u.configured.insert g (c.erase plugin) }

def install (u : Uncached) (g plugin : String) (c : Option Configuration) : Answer × Uncached :=
  if g ∉ u.groupTypes.keys then (.failed (.groupTypeNotFound g), u)
  else
    match u.definitions.get? plugin with
    | none => (.failed (.pluginNotFound plugin), u)
    | some e =>
      if (u.installed.on g).contains plugin then (.failed (.pluginAlreadyInstalled g plugin), u)
      else
        let u := u.configure g plugin (e.lock (c.getD e.defaults))
        (u.installation g plugin, u)

def uninstall (u : Uncached) (g plugin : String) : Answer × Uncached :=
  match (u.installed.on g).get? plugin with
  | none => (.failed (.pluginNotFound plugin), u)
  | some i =>
    if i.enabler.isEnforced then (.failed (Registry.enforcedFailure plugin), u)
    else (.done, u.unconfigure g plugin)

def updateConfiguration (u : Uncached) (g plugin : String) (c : Configuration) :
    Answer × Uncached :=
  match (u.installed.on g).get? plugin with
  | none => (.failed (.pluginNotFound plugin), u)
  | some i =>
    let u := u.configure g plugin (i.enabler.lock c)
    (u.installation g plugin, u)

def respond (u : Uncached) : Request → Answer × Uncached
  | .change q => u.change q
  | .definition q => (u.answerDefinition q, u)
  | .registerGroupType g => (.done, u.registerGroupType g)
  | .install g plugin c => u.install g plugin c
  | .uninstall g plugin => u.uninstall g plugin
  | .updateConfiguration g plugin c => u.updateConfiguration g plugin c
  | .installation q => (u.answerInstallation q, u)
  | .clear => (.done, u)

def answers (u : Uncached) : List Request → List Answer
  | [] => []
  | q :: qs => (u.respond q).1 :: answers (u.respond q).2 qs

/-- After the request there is a change of the catalog that no `clear` has followed. -/
def staleAfter (u : Uncached) (stale : Bool) : Request → Bool
  | .change q => stale || (u.change q).2 ≠ u
  | .clear => false
  | _ => stale

end Uncached

/-- The request is for the registry rather than for the catalog behind it. -/
def Request.ofRegistry : Request → Bool
  | change _ | definition _ | clear => false
  | _ => true

/-- The registry is asked only when no change of the catalog waits for a `clear`. -/
def Uncached.tidy (u : Uncached) (stale : Bool) : List Request → Bool
  | [] => true
  | q :: qs => !(stale && q.ofRegistry) && tidy (u.respond q).2 (u.staleAfter stale q) qs

namespace Registry

def uncached (r : Registry) : Uncached :=
  ⟨r.catalog.bundles, r.catalog.enablers, r.catalog.derivations, r.groupTypes, r.configured⟩

variable {r : Registry} {g plugin : String}

@[simp]
theorem uncached_clear (r : Registry) : r.clear.uncached = r.uncached := rfl

@[simp]
theorem uncached_warm (r : Registry) : r.warm.uncached = r.uncached := by
  unfold warm
  split
  · rfl
  · rfl

@[simp]
theorem uncached_configure (r : Registry) (g plugin : String) (c : Configuration) :
    (r.configure g plugin c).uncached = r.uncached.configure g plugin c := rfl

@[simp]
theorem uncached_unconfigure (r : Registry) (g plugin : String) :
    (r.unconfigure g plugin).uncached = r.uncached.unconfigure g plugin := by
  have hget : r.uncached.configured.get? g = r.configured.get? g := rfl
  unfold unconfigure Uncached.unconfigure
  rw [hget]
  cases r.configured.get? g with
  | none => rfl
  | some c => rfl

theorem definitions_eq_uncached (h : r.catalog.Fresh) :
    r.catalog.definitions = r.uncached.definitions :=
  h.definitions_eq

theorem resolve_eq_uncached (h : r.catalog.Fresh) : r.resolve = r.uncached.installed := by
  unfold resolve resolveOn
  rw [definitions_eq_uncached h]
  rfl

/-- A remembered map is the one that would be computed. -/
def Current (r : Registry) : Prop := ∀ m, r.cached = some m → m = r.uncached.installed

instance (r : Registry) : Decidable r.Current :=
  inferInstanceAs (Decidable (∀ m ∈ r.cached, m = r.uncached.installed))

theorem current_clear (r : Registry) : r.clear.Current := nofun

theorem Current.warm (h : r.Current) (hs : r.Sound) : r.warm.Current := by
  intro m hm
  rw [uncached_warm]
  unfold Registry.warm at hm
  split at hm
  · exact h m hm
  · cases hm
    exact resolve_eq_uncached hs.catalog

theorem Current.installed_eq (h : r.Current) (hs : r.Sound) :
    r.installed = r.uncached.installed := by
  unfold installed
  cases hc : r.cached with
  | none => exact resolve_eq_uncached hs.catalog
  | some m => exact h m hc

theorem answer_get (h : r.Current) (hs : r.Sound) (g plugin : String) :
    Answer.ofExcept .installation (r.get g plugin) = r.uncached.installation g plugin := by
  unfold get Uncached.installation installedOn
  rw [h.installed_eq hs]
  cases (r.uncached.installed.on g).get? plugin with
  | none => rfl
  | some i => rfl

theorem answer_definition (h : r.catalog.Fresh) (q : CatalogQuery) :
    r.catalog.answer q = r.uncached.answerDefinition q := by
  have hdefinitions := definitions_eq_uncached h
  cases q with
  | definitions => exact congrArg Answer.table hdefinitions
  | definition plugin =>
    simp only [Catalog.answer, Catalog.require, Catalog.get?, Uncached.answerDefinition,
      Uncached.definition, hdefinitions]
    cases r.uncached.definitions.get? plugin with
    | none => rfl
    | some e => rfl
  | enforced =>
    simp only [Catalog.answer, Catalog.enforced, Uncached.answerDefinition, hdefinitions]

theorem answer_installation (h : r.Current) (hs : r.Sound) (q : RegistryQuery) :
    r.answer q = r.uncached.answerInstallation q := by
  cases q with
  | get g plugin => exact answer_get h hs g plugin
  | _ =>
    simp only [answer, Uncached.answerInstallation, installedOn, has, contentTypesOf,
      ofContentType?, h.installed_eq hs]

/-- An answer and what is left of the registry without its memory. -/
def forget (o : Answer × Registry) : Answer × Uncached := (o.1, o.2.uncached)

theorem forget_change (r : Registry) (q : CatalogChange) :
    forget (r.respond (.change q)) = r.uncached.change q := by
  cases q with
  | removeBundle type bundle =>
    have hhas : r.uncached.bundles.has type bundle = r.catalog.bundles.has type bundle := rfl
    simp only [forget, respond, Catalog.change, Catalog.removeBundle, Uncached.change,
      Bundles.remove, hhas]
    split
    · rfl
    · rfl
  | _ => rfl

theorem forget_reread (hs : r.Sound) (g plugin : String) :
    forget (.ofExcept .installation (r.reread g plugin).1, (r.reread g plugin).2) =
      (r.uncached.installation g plugin, r.uncached) := by
  have hanswer := answer_get ((current_clear r).warm hs.clear) hs.clear.warm g plugin
  rw [uncached_warm, uncached_clear] at hanswer
  refine Prod.ext hanswer ?_
  exact (uncached_warm r.clear).trans (uncached_clear r)

theorem forget_install (h : r.Current) (hs : r.Sound) (g plugin : String)
    (c : Option Configuration) :
    forget (r.respond (.install g plugin c)) = r.uncached.install g plugin c := by
  have hkeys : r.uncached.groupTypes.keys = r.groupTypes.keys := rfl
  have hon : (r.uncached.installed.on g).contains plugin = r.has g plugin := by
    rw [← h.installed_eq hs]
    rfl
  unfold Uncached.install
  rw [← definitions_eq_uncached hs.catalog, hkeys, hon, respond]
  rcases r.install_eq g plugin c with ⟨hg, hi⟩ | ⟨hg, ⟨hnone, hi⟩ | ⟨e, he, hi⟩⟩
  · rw [hi, if_pos hg]
    rfl
  · rw [hi, if_neg (not_not.mpr hg), hnone]
    rfl
  · rw [hi, if_neg (not_not.mpr hg), he]
    dsimp only
    split
    · exact Prod.ext rfl (uncached_warm r.warmCatalog)
    · have hreread := forget_reread
        (hs.warmCatalog.warm.configure g plugin (e.lock (c.getD e.defaults))) g plugin
      rwa [uncached_configure, uncached_warm] at hreread

theorem forget_uninstall (h : r.Current) (hs : r.Sound) (g plugin : String) :
    forget (r.respond (.uninstall g plugin)) = r.uncached.uninstall g plugin := by
  have hon : r.uncached.installed.on g = r.installedOn g := by
    rw [← h.installed_eq hs]
    rfl
  unfold Uncached.uninstall
  rw [hon, respond]
  rcases r.uninstall_eq g plugin with ⟨hnone, hu⟩ | ⟨i, hi, hu⟩
  · rw [hu, hnone]
    exact Prod.ext rfl r.uncached_warm
  · rw [hu, hi]
    dsimp only
    split
    · exact Prod.ext rfl r.uncached_warm
    · refine Prod.ext rfl ?_
      simp [forget]

theorem forget_updateConfiguration (h : r.Current) (hs : r.Sound) (g plugin : String)
    (c : Configuration) :
    forget (r.respond (.updateConfiguration g plugin c)) =
      r.uncached.updateConfiguration g plugin c := by
  have hon : r.uncached.installed.on g = r.installedOn g := by
    rw [← h.installed_eq hs]
    rfl
  unfold Uncached.updateConfiguration
  rw [hon, respond]
  rcases r.updateConfiguration_eq g plugin c with ⟨hnone, hu⟩ | ⟨i, hi, hu⟩
  · rw [hu, hnone]
    exact Prod.ext rfl r.uncached_warm
  · have hreread := forget_reread (hs.warm.configure g plugin (i.enabler.lock c)) g plugin
    rw [uncached_configure, uncached_warm] at hreread
    rw [hu, hi]
    exact hreread

theorem forget_respond (hs : r.Sound) {q : Request} (hc : q.ofRegistry = true → r.Current) :
    forget (r.respond q) = r.uncached.respond q := by
  cases q with
  | change q => exact r.forget_change q
  | definition q => exact Prod.ext (answer_definition hs.catalog q) rfl
  | registerGroupType g => rfl
  | install g plugin c => exact forget_install (hc rfl) hs g plugin c
  | uninstall g plugin => exact forget_uninstall (hc rfl) hs g plugin
  | updateConfiguration g plugin c => exact forget_updateConfiguration (hc rfl) hs g plugin c
  | installation q => exact Prod.ext (answer_installation (hc rfl) hs q) r.uncached_warm
  | clear => rfl

theorem current_clear_warm (hs : r.Sound) : r.clear.warm.Current := (current_clear r).warm hs.clear

/-- A map that is out of date is seen to be so. -/
theorem current_respond {stale : Bool} (hs : r.Sound) (hc : stale = false → r.Current) {q : Request}
    (h : r.uncached.staleAfter stale q = false) : (r.respond q).2.Current := by
  cases q with
  | change q =>
    obtain ⟨hstale, hsame⟩ : stale = false ∧ (r.uncached.change q).2 = r.uncached := by
      simpa [Uncached.staleAfter] using h
    have huncached : (r.respond (.change q)).2.uncached = r.uncached :=
      (congrArg Prod.snd (r.forget_change q)).trans hsame
    intro m hm
    rw [huncached]
    exact hc hstale m hm
  | definition q => exact hc h
  | registerGroupType g => exact current_clear _
  | install g plugin c =>
    have hcatalog : r.warmCatalog.Current := hc h
    change (r.install g plugin c).2.Current
    rcases r.install_cases g plugin c with hi | hi | hi | ⟨e, c', -, hi⟩
    · rw [hi]
      exact hc h
    · rwa [hi]
    · rw [hi]
      exact hcatalog.warm hs.warmCatalog
    · rw [hi]
      exact current_clear_warm (hs.warmCatalog.warm.configure g plugin _)
  | uninstall g plugin =>
    change (r.uninstall g plugin).2.Current
    rcases r.uninstall_cases g plugin with hu | hu
    · rw [hu]
      exact (hc h).warm hs
    · rw [hu]
      exact current_clear _
  | updateConfiguration g plugin c =>
    change (r.updateConfiguration g plugin c).2.Current
    rcases r.updateConfiguration_cases g plugin c with hu | ⟨i, -, hu⟩
    · rw [hu]
      exact (hc h).warm hs
    · rw [hu]
      exact current_clear_warm (hs.warm.configure g plugin _)
  | installation q => exact (hc h).warm hs
  | clear => exact current_clear r

theorem answers_eq_uncached {stale : Bool} {qs : List Request} (hs : r.Sound)
    (hc : stale = false → r.Current) (h : r.uncached.tidy stale qs = true) :
    r.answers qs = r.uncached.answers qs := by
  induction qs generalizing r stale with
  | nil => rfl
  | cons q qs ih =>
    simp only [Uncached.tidy, Bool.and_eq_true, Bool.not_eq_true', Bool.and_eq_false_iff] at h
    obtain ⟨hq, hqs⟩ := h
    have hforget : forget (r.respond q) = r.uncached.respond q := by
      apply forget_respond hs
      intro hregistry
      rw [hregistry] at hq
      exact hc (hq.resolve_right nofun)
    rw [← hforget] at hqs
    rw [answers, Uncached.answers, ← hforget]
    congr 1
    exact ih ((r.step_respond q).sound hs) (fun hstale => current_respond hs hc hstale) hqs

theorem fresh_of_steps {bundles : Bundles} {c : Catalog}
    (h : Relation.ReflTransGen Catalog.Step (.ofBundles bundles) c) : c.Fresh := by
  induction h with
  | refl => exact nofun
  | tail _ hstep ih => exact hstep.fresh ih

/-- The memory of a registry and of its catalog does not show in the answers of a tidy run. -/
theorem answers_ofCatalog {bundles : Bundles} {c : Catalog} {qs : List Request}
    (hc : Relation.ReflTransGen Catalog.Step (.ofBundles bundles) c)
    (h : (ofCatalog c).uncached.tidy false qs = true) :
    (ofCatalog c).answers qs = (ofCatalog c).uncached.answers qs :=
  answers_eq_uncached (sound_ofCatalog (fresh_of_steps hc)) (fun _ => nofun) h

/-- A bundle of media goes while its plugin is installed, and it comes back under another label. -/
def relabelling : List Request :=
  [.change (.registerDerivation .media), .change (.addBundle EntityTypeId.media "image" "Image"),
    .definition (.definition (PluginId.media "image")), .clear,
    .registerGroupType { id := "club", label := "Club" },
    .install "club" (PluginId.media "image") none,
    .change (.removeBundle EntityTypeId.media "image"), .definition .definitions, .clear,
    .updateConfiguration "club" (PluginId.media "image") { groupLimit := 3 },
    .change (.addBundle EntityTypeId.media "image" "Picture"), .clear,
    .installation (.get "club" (PluginId.media "image"))]

theorem answers_relabelling : (ofCatalog (.ofBundles .empty)).uncached.tidy false relabelling = true ∧
    (ofCatalog (.ofBundles .empty)).answers relabelling =
      (ofCatalog (.ofBundles .empty)).uncached.answers relabelling := by
  have htidy : (ofCatalog (.ofBundles .empty)).uncached.tidy false relabelling = true := by
    decide +kernel
  exact ⟨htidy, answers_ofCatalog .refl htidy⟩

/-- Without the second `clear` the plugin that is gone gets a configuration all the same. -/
example : (ofCatalog (.ofBundles .empty)).answers (relabelling.eraseIdx 8) ≠
    (ofCatalog (.ofBundles .empty)).uncached.answers (relabelling.eraseIdx 8) := by
  decide +kernel

end Registry

end Grouping
