import LayeredConfig.Proofs.Context.Settling
import LayeredConfig.Proofs.Layering.Failure

/-!
# Coherence of a settled run

What a settled context holds fits together (`coherent_of_settle`).  It has an assembly exactly
if one is in force, and then this one; its configuration of the group, its basis event, its
event and its suffix are those of that assembly, or those of a run without assemblies.  Its
queries are those of the document at the assembly in force.
-/

namespace LayeredConfig.Context

variable {settings : Settings} {doc : ReleasesDocument} {config : Tree} {name : String}
  {c : Context}

/-! ### The event of a run -/

/-- The event to use is the one that is fixed, where the basis and the settings do not both
fix one. -/
theorem event?_eq_ok_iff {assembly : Option AssemblyName} {basis requested event : Option Int64} :
  event? assembly basis requested = .ok event
    ↔ (basis = none ∨ requested = none) ∧ event = basis.or requested
  := by
  cases basis with
  | none => simp [event?, eq_comm]
  | some basis =>
    cases requested with
    | none => simp [event?, eq_comm]
    | some requested => simp [event?]

/-! ### The assembly of a context -/

theorem isStrict_iff (h : c.assemblyName = some name) :
  c.isStrict = true ↔ name ≠ "stream" ∧ name ≠ "test"
  := by
  obtain ⟨assembly, ha, rfl⟩ := Option.map_eq_some_iff.1 h
  rw [isStrict, ha]
  simp [AssemblyName.isBuiltin, AssemblyName.stream, AssemblyName.test]

theorem buildSuffix_of_assemblyName (h : c.assemblyName = some name) :
  c.buildSuffix
    = some (if c.basisEvent.isSome then ".assembly.stream" else ".assembly." ++ name)
  := by
  rw [buildSuffix, h, Option.map_some]
  split
  · rfl
  · rfl

/-! ### Settled contexts -/

/-- A run with an assembly in force settles with this assembly and what it resolves to. -/
theorem settle_eq_ok_iff_of_inForce (h : InForce settings doc config name) :
  settle settings doc config = .ok c
    ↔ ∃ assembly, AssemblyName.parse name = .ok assembly ∧ c.releases = doc
      ∧ c.assembly = some assembly ∧ doc.groupConfig (some name) config = .ok c.groupConfig
      ∧ doc.basisEvent (some name) = .ok c.basisEvent
      ∧ event? (some assembly) c.basisEvent settings.event = .ok c.event
  := by
  rw [settle_of_inForce h]
  constructor
  · intro hc
    obtain ⟨resolved, hg, hc⟩ := Except.bind_eq_ok_iff.1 hc
    obtain ⟨assembly, ha, hc⟩ := Except.bind_eq_ok_iff.1 hc
    obtain ⟨basis, hb, hc⟩ := Except.bind_eq_ok_iff.1 hc
    obtain ⟨event, he, hc⟩ := Except.bind_eq_ok_iff.1 hc
    cases hc
    use assembly, ha, rfl, rfl, hg, hb, he
  · rintro ⟨assembly, hp, hr, ha, hg, hb, he⟩
    rw [hg, hp, hb]
    apply Except.bind_eq_ok_iff.2 ⟨c.event, he, ?_⟩
    rw [← hr, ← ha]
    rfl

/-- A run without an assembly in force settles without one. -/
theorem eq_of_settle_of_not_inForce (h : ∀ name, ¬ InForce settings doc config name)
    (hc : settle settings doc config = .ok c) :
  c = withoutAssembly settings doc config
  := by
  rw [settle_of_not_inForce h] at hc
  obtain ⟨_, -, hc⟩ := Except.map_eq_ok_iff.1 hc
  apply hc.symm

theorem assemblyName_eq_some_iff (hc : settle settings doc config = .ok c) :
  c.assemblyName = some name ↔ InForce settings doc config name
  := by
  by_cases h : ∃ other, InForce settings doc config other
  · obtain ⟨other, h⟩ := h
    obtain ⟨assembly, hp, -, ha, -⟩ := (settle_eq_ok_iff_of_inForce h).1 hc
    rw [assemblyName, ha, Option.map_some, AssemblyName.text_of_parse hp, Option.some_inj]
    constructor
    · rintro rfl
      apply h
    · intro hn
      apply h.eq hn
  · rw [not_exists] at h
    cases eq_of_settle_of_not_inForce h hc
    constructor
    · nofun
    · intro hn
      exact absurd hn (h name)

/-- The queries of a context give what a document gives for the assembly in force. -/
structure AnswersFrom (c : Context) (doc : ReleasesDocument) : Prop where
  releases : c.releases = doc
  memberConfig (kind : MemberKind) (key : String) (seed : Tree) :
    c.memberConfig kind key seed = doc.memberConfig c.assemblyName kind key seed
  systemConfig : c.systemConfig = doc.systemConfig c.assemblyName
  issuesConfig : c.issuesConfig = doc.issuesConfig c.assemblyName
  issueOverrides : c.issueOverrides = doc.issueOverrides c.assemblyName
  checkBasis : c.checkBasis = doc.checkBasis c.assemblyName

theorem answersFrom_releases (c : Context) :
  c.AnswersFrom c.releases
  where
  releases := rfl
  memberConfig _ _ _ := rfl
  systemConfig := rfl
  issuesConfig := rfl
  issueOverrides := rfl
  checkBasis := rfl

theorem releases_of_settle (hc : settle settings doc config = .ok c) :
  c.releases = doc
  := by
  by_cases h : ∃ name, InForce settings doc config name
  · obtain ⟨name, h⟩ := h
    obtain ⟨_, -, hr, -⟩ := (settle_eq_ok_iff_of_inForce h).1 hc
    apply hr
  · rw [not_exists] at h
    cases eq_of_settle_of_not_inForce h hc
    rfl

/-- A settled context has an assembly exactly if one is in force, and it is this one.  Without
an assembly nothing is resolved: the configuration of the group and the event are those given.
With an assembly both are those resolved for it, the event of the settings counts only where
the basis fixes none, and the two never meet.  The queries are those of the document at the
assembly in force. -/
theorem coherent_of_settle (hc : settle settings doc config = .ok c) :
  (∀ name, c.assemblyName = some name ↔ InForce settings doc config name)
    ∧ (c.assemblyName = none → c.groupConfig = config ∧ c.basisEvent = none
      ∧ c.event = settings.event ∧ c.isStrict = false ∧ c.buildSuffix = none)
    ∧ (∀ name, c.assemblyName = some name →
      doc.groupConfig (some name) config = .ok c.groupConfig
        ∧ doc.basisEvent (some name) = .ok c.basisEvent
        ∧ c.event = c.basisEvent.or settings.event
        ∧ (c.basisEvent = none ∨ settings.event = none)
        ∧ (c.isStrict = true ↔ name ≠ "stream" ∧ name ≠ "test")
        ∧ c.buildSuffix
          = some (if c.basisEvent.isSome then ".assembly.stream" else ".assembly." ++ name))
    ∧ c.AnswersFrom doc
  := by
  refine ⟨?_, ?_, ?_, ?_⟩
  · intro name
    apply assemblyName_eq_some_iff hc
  · intro hnone
    have h : ∀ name, ¬ InForce settings doc config name := by
      intro name h
      cases hnone.symm.trans ((assemblyName_eq_some_iff hc).2 h)
    cases eq_of_settle_of_not_inForce h hc
    exact ⟨rfl, rfl, rfl, rfl, rfl⟩
  · intro name hname
    have h := (assemblyName_eq_some_iff hc).1 hname
    obtain ⟨assembly, -, -, -, hg, hb, he⟩ := (settle_eq_ok_iff_of_inForce h).1 hc
    obtain ⟨hone, hevent⟩ := event?_eq_ok_iff.1 he
    use hg, hb, hevent, hone, isStrict_iff hname, buildSuffix_of_assemblyName hname
  · cases releases_of_settle hc
    apply answersFrom_releases

/-! ### Assemblies that switch assemblies -/

/-- The configuration of a group that enables assemblies or not. -/
def switch (enabled : Bool) : Tree :=
  .mapping [("assemblies", .mapping [("enabled", .bool enabled)])]

/-- The assembly `on` enables assemblies and fixes an event; `off` disables them, and its event
is no number.  The last one enables them again, with a malformed name. -/
def switchingReleases : ReleasesDocument where
  root := .mapping [("releases", .mapping [
    ("off", ReleasesDocument.release [("brew_event", .string "soon")] [("group", switch false)]),
    ("on", ReleasesDocument.release [("brew_event", .integer 7)] [("group", switch true)]),
    ("on.", ReleasesDocument.release [("assembly", .string "off")] [("group", switch true)])])]

/-- The settings of a run that asks for an assembly, and for an event if one is given. -/
def asking (name : String) (event : Option Int64) : Settings where
  assembly := some name
  event := event

theorem groupConfig_on :
  switchingReleases.groupConfig (some "on") .null = .ok (switch true)
  := by decide +kernel

theorem basisEvent_on :
  switchingReleases.basisEvent (some "on") = .ok (some 7)
  := by decide +kernel

theorem inForce_on (event : Option Int64) :
  InForce (asking "on" event) switchingReleases .null "on"
  where
  requested := rfl
  name_ne_empty := by decide
  enabled := by
    right
    use switch true, .bool true, groupConfig_on
    decide

/-- The context of a run that asks for the assembly `on`. -/
def contextOn : Context where
  releases := switchingReleases
  assembly := some ⟨"on", by decide⟩
  groupConfig := switch true
  basisEvent := some 7
  event := some 7

theorem settle_on :
  settle (asking "on" none) switchingReleases .null = .ok contextOn
  := by
  apply (settle_eq_ok_iff_of_inForce (inForce_on none)).2
  use ⟨"on", by decide⟩, AssemblyName.parse_text ⟨"on", by decide⟩, rfl, rfl, groupConfig_on,
    basisEvent_on
  rfl

theorem groupConfig_off :
  switchingReleases.groupConfig (some "off") (switch true) = .ok (switch false)
  := by decide +kernel

/-- An assembly that disables assemblies is not in force, although the given configuration of
the group enables them. -/
theorem not_inForce_off (event : Option Int64) (name : String) :
  ¬ InForce (asking "off" event) switchingReleases (switch true) name
  := by
  intro h
  cases h.requested
  rcases h.enabled with hf | ⟨resolved, enabled, hg, hl, ht⟩
  · cases hf
  · cases groupConfig_off.symm.trans hg
    cases hl
    cases ht

theorem settle_off :
  settle (asking "off" (some 5)) switchingReleases (switch true)
    = .ok (withoutAssembly (asking "off" (some 5)) switchingReleases (switch true))
  := by
  have hr : requested? (asking "off" (some 5)) = some "off" := by decide
  rw [settle_of_not_inForce (not_inForce_off _), hr, groupConfig_off]
  rfl

theorem coherent_switchingReleases :
  (settle (asking "on" none) switchingReleases .null = .ok contextOn
      ∧ contextOn.assemblyName = some "on" ∧ contextOn.event = some 7
      ∧ contextOn.isStrict = true ∧ contextOn.buildSuffix = some ".assembly.stream"
      ∧ contextOn.issuesConfig = switchingReleases.issuesConfig (some "on"))
    ∧ ∃ c, settle (asking "off" (some 5)) switchingReleases (switch true) = .ok c
      ∧ c.assemblyName = none ∧ c.groupConfig = switch true ∧ c.event = some 5
  := by
  constructor
  · obtain ⟨hname, -, hresolved, hanswers⟩ := coherent_of_settle settle_on
    have hon := (hname "on").2 (inForce_on none)
    obtain ⟨-, -, hevent, -, hstrict, hsuffix⟩ := hresolved "on" hon
    use settle_on, hon, hevent, hstrict.2 (by decide), hsuffix
    rw [hanswers.issuesConfig, hon]
  · obtain ⟨hname, hbare, -, -⟩ := coherent_of_settle settle_off
    have hoff : (withoutAssembly (asking "off" (some 5)) switchingReleases
        (switch true)).assemblyName = none := by
      apply Option.eq_none_iff_forall_ne_some.2
      intro name hn
      apply not_inForce_off _ name ((hname name).1 hn)
    obtain ⟨hgroup, -, hevent, -⟩ := hbare hoff
    exact ⟨_, settle_off, hoff, hgroup, hevent⟩

end LayeredConfig.Context
