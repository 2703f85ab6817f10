import LayeredConfig.Context
import LayeredConfig.Proofs.Release.Inheritance

/-!
# Settling a run

The requested assembly is in force if the settings force assemblies, or if the configuration
of the group that is resolved for it enables them (`Context.InForce`).  Settling takes one of
two courses.  With an assembly in force its name is checked, then its basis event, then the
event of the settings (`settle_of_inForce`); otherwise the run has no assembly, and only
resolving the configuration of the group can fail (`settle_of_not_inForce`).
-/

namespace LayeredConfig.Context

variable {settings : Settings} {doc : ReleasesDocument} {config : Tree} {name : String}

/-- The assembly of a given name is in force: it is requested, and the settings force
assemblies or the configuration of the group resolved for it enables them. -/
structure InForce (settings : Settings) (doc : ReleasesDocument) (config : Tree)
    (name : String) : Prop where
  requested : settings.assembly = some name
  name_ne_empty : name ≠ ""
  enabled : settings.enableAssemblies = true
    ∨ ∃ resolved enabled, doc.groupConfig (some name) config = .ok resolved
      ∧ resolved.lookup ["assemblies", "enabled"] = some enabled ∧ enabled.isTruthy = true

/-- The context of a run without an assembly. -/
def withoutAssembly (settings : Settings) (doc : ReleasesDocument) (config : Tree) : Context where
  releases := doc
  assembly := none
  groupConfig := config
  basisEvent := none
  event := settings.event

theorem isEnabledBy_iff :
  isEnabledBy config = true
    ↔ ∃ enabled, config.lookup ["assemblies", "enabled"] = some enabled ∧ enabled.isTruthy = true
  := by
  rw [isEnabledBy]
  cases config.lookup ["assemblies", "enabled"] with
  | none => simp
  | some enabled => simp

theorem requested?_eq_some_iff :
  requested? settings = some name ↔ settings.assembly = some name ∧ name ≠ ""
  := by
  rw [requested?, Option.filter_eq_some_iff]
  simp

/-! ### The two courses -/

/-- The assembly in force is the only one that can be. -/
theorem InForce.eq {other : String} (h : InForce settings doc config name)
    (ho : InForce settings doc config other) :
  name = other
  := by
  cases h.requested.symm.trans ho.requested
  rfl

theorem InForce.isEnabled {resolved : Tree} (h : InForce settings doc config name)
    (hg : doc.groupConfig (some name) config = .ok resolved) :
  (settings.enableAssemblies || isEnabledBy resolved) = true
  := by
  rw [Bool.or_eq_true]
  rcases h.enabled with hf | ⟨resolved', enabled, hg', hl, ht⟩
  · left
    apply hf
  · right
    cases hg.symm.trans hg'
    apply isEnabledBy_iff.2 ⟨enabled, hl, ht⟩

/-- With an assembly in force its name, its basis event and the event of the settings are
checked in this order, after the configuration of the group. -/
theorem settle_of_inForce (h : InForce settings doc config name) :
  settle settings doc config = do
    let resolved ← doc.groupConfig (some name) config
    let assembly ← AssemblyName.parse name
    let basis ← doc.basisEvent (some name)
    let event ← event? (some assembly) basis settings.event
    return {
      releases := doc, assembly := some assembly, groupConfig := resolved,
      basisEvent := basis, event }
  := by
  have hr : requested? settings = some name :=
    requested?_eq_some_iff.2 ⟨h.requested, h.name_ne_empty⟩
  rw [settle]
  simp only [hr]
  cases hg : doc.groupConfig (some name) config with
  | error e => rfl
  | ok resolved =>
    have he := h.isEnabled hg
    simp only [bind, Except.bind, he, if_true, name?]
    cases hp : AssemblyName.parse name with
    | error e => rfl
    | ok assembly =>
      simp only [Except.map, Option.map_some, AssemblyName.text_of_parse hp]

/-- Without an assembly in force the run has none; only resolving the configuration of the
group can fail. -/
theorem settle_of_not_inForce (h : ∀ name, ¬ InForce settings doc config name) :
  settle settings doc config
    = (doc.groupConfig (requested? settings) config).map fun _ =>
        withoutAssembly settings doc config
  := by
  rw [settle]
  cases hr : requested? settings with
  | none =>
    -- Whether or not assemblies are enabled, there is no name to put in force.
    have hg : doc.groupConfig none config = .ok config := rfl
    simp only [hg, bind, Except.bind]
    split
    · rfl
    · rfl
  | some name =>
    obtain ⟨hrequested, hn⟩ := requested?_eq_some_iff.1 hr
    cases hg : doc.groupConfig (some name) config with
    | error e => rfl
    | ok resolved =>
      have hdisabled : (settings.enableAssemblies || isEnabledBy resolved) = false := by
        rw [← Bool.not_eq_true, Bool.or_eq_true]
        intro he
        apply h name
        refine ⟨hrequested, hn, he.imp_right ?_⟩
        intro he
        obtain ⟨enabled, hl, ht⟩ := isEnabledBy_iff.1 he
        use resolved, enabled, hg, hl, ht
      simp only [bind, Except.bind, hdisabled]
      rfl

end LayeredConfig.Context
