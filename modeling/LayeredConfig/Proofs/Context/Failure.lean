import LayeredConfig.Proofs.Context.Coherence
import LayeredConfig.Proofs.Release.Failure

/-!
# Failures of settling a run

Settling a run fails for one of four causes: the configuration of the group cannot be resolved,
the name of the assembly in force is malformed, its basis event has no number, or its basis and
the settings both fix an event.  They are looked for in this order, and the first one that
applies is reported (`settle_reports_first_failure`).  The last three need an assembly in
force.
-/

namespace LayeredConfig

/-! ### The first of several causes -/

/-- An error is that of the first cause, in a list, that applies. -/
def FirstOf : List (Error → Prop) → Error → Prop
  | [], _ => False
  | cause :: causes, e => cause e ∨ (∀ e', ¬ cause e') ∧ FirstOf causes e

theorem FirstOf.exists_mem {causes : List (Error → Prop)} {e : Error} (h : FirstOf causes e) :
  ∃ cause ∈ causes, cause e
  := by
  induction causes with
  | nil => cases h
  | cons cause causes ih =>
    rcases h with h | ⟨-, h⟩
    · use cause, List.mem_cons_self, h
    · obtain ⟨later, hm, hl⟩ := ih h
      use later, List.mem_cons_of_mem _ hm, hl

/-- Some cause is the first one exactly if some cause applies. -/
theorem exists_firstOf_iff {causes : List (Error → Prop)} :
  (∃ e, FirstOf causes e) ↔ ∃ cause ∈ causes, ∃ e, cause e
  := by
  constructor
  · rintro ⟨e, h⟩
    obtain ⟨cause, hm, hc⟩ := h.exists_mem
    use cause, hm, e, hc
  · intro h
    induction causes with
    | nil =>
      obtain ⟨_, hm, -⟩ := h
      cases hm
    | cons first causes ih =>
      by_cases hfirst : ∃ e, first e
      · obtain ⟨e, he⟩ := hfirst
        exact ⟨e, .inl he⟩
      · obtain ⟨cause, hm, e, he⟩ := h
        rcases List.mem_cons.1 hm with rfl | hm
        · exact absurd ⟨e, he⟩ hfirst
        · obtain ⟨e', he'⟩ := ih ⟨cause, hm, e, he⟩
          exact ⟨e', .inr ⟨not_exists.1 hfirst, he'⟩⟩

/-- A computation whose first step fails for one cause, and whose other steps fail with the
first of some further causes, fails with the first of them all. -/
theorem bind_eq_error_iff_firstOf {α β : Type} {x : Except Error α} {f : α → Except Error β}
    {cause : Error → Prop} {causes : List (Error → Prop)} {e : Error}
    (hx : ∀ e, x = .error e ↔ cause e)
    (hf : ∀ a, x = .ok a → (f a = .error e ↔ FirstOf causes e)) :
  x >>= f = .error e ↔ FirstOf (cause :: causes) e
  := by
  rw [Except.bind_eq_error_iff, FirstOf, hx]
  cases hxa : x with
  | error e' =>
    have he' : cause e' := (hx e').1 hxa
    simp only [reduceCtorEq, false_and, exists_false, or_false]
    constructor
    · intro h
      exact .inl h
    · rintro (h | ⟨hnone, -⟩)
      · apply h
      · exact absurd he' (hnone e')
  | ok a =>
    have hnone : ∀ e', ¬ cause e' := by
      intro e' he'
      cases hxa.symm.trans ((hx e').2 he')
    rw [← hf a hxa]
    simp only [Except.ok.injEq, exists_eq_left']
    constructor
    · rintro (h | h)
      · exact .inl h
      · exact .inr ⟨hnone, h⟩
    · rintro (h | ⟨-, h⟩)
      · exact .inl h
      · exact .inr h

namespace Context

variable {settings : Settings} {doc : ReleasesDocument} {config : Tree} {name : String}
  {e : Error}

/-! ### The causes -/

/-- The configuration of the group cannot be resolved for the requested assembly, be it in
force or not. -/
def GroupFailure (settings : Settings) (doc : ReleasesDocument) (config : Tree)
    (e : Error) : Prop :=
  ∃ name, settings.assembly = some name ∧ name ≠ ""
    ∧ doc.groupConfig (some name) config = .error e

/-- The name of the assembly in force is malformed. -/
def NameFailure (settings : Settings) (doc : ReleasesDocument) (config : Tree)
    (e : Error) : Prop :=
  ∃ name flaw, InForce settings doc config name ∧ AssemblyName.flaw? name = some flaw
    ∧ e = .invalidName name flaw

/-- The nearest event on the chain of the assembly in force has no number. -/
def EventFailure (settings : Settings) (doc : ReleasesDocument) (config : Tree)
    (e : Error) : Prop :=
  ∃ name path nearest event, InForce settings doc config name ∧ doc.chain name = .ok path
    ∧ doc.NearestEvent path nearest event ∧ event.eventNumber? = none
    ∧ e = .invalidEvent nearest event

/-- The basis of the assembly in force and the settings both fix an event, be it the same. -/
def EventConflict (settings : Settings) (doc : ReleasesDocument) (config : Tree)
    (e : Error) : Prop :=
  ∃ name basis requested, InForce settings doc config name
    ∧ doc.basisEvent (some name) = .ok (some basis) ∧ settings.event = some requested
    ∧ e = .eventConflict name basis requested

/-- The causes for which settling a run can fail, in the order in which they are looked for. -/
def failures (settings : Settings) (doc : ReleasesDocument) (config : Tree) :
    List (Error → Prop) :=
  [GroupFailure settings doc config, NameFailure settings doc config,
    EventFailure settings doc config, EventConflict settings doc config]

/-! ### The causes with an assembly in force -/

theorem groupFailure_iff (h : InForce settings doc config name) :
  doc.groupConfig (some name) config = .error e ↔ GroupFailure settings doc config e
  := by
  constructor
  · intro hg
    use name, h.requested, h.name_ne_empty, hg
  · rintro ⟨other, hr, -, hg⟩
    cases hr.symm.trans h.requested
    apply hg

theorem nameFailure_iff (h : InForce settings doc config name) :
  AssemblyName.parse name = .error e ↔ NameFailure settings doc config e
  := by
  rw [AssemblyName.parse_eq_error_iff]
  constructor
  · rintro ⟨flaw, hf, he⟩
    use name, flaw, h, hf, he
  · rintro ⟨other, flaw, ho, hf, he⟩
    cases ho.eq h
    use flaw, hf, he

theorem eventFailure_iff {path : List String} (h : InForce settings doc config name)
    (hc : doc.chain name = .ok path) :
  doc.basisEvent (some name) = .error e ↔ EventFailure settings doc config e
  := by
  rw [ReleasesDocument.basisEvent_eq_error_iff hc]
  constructor
  · rintro ⟨nearest, event, hn, hnumber, he⟩
    use name, path, nearest, event, h, hc, hn, hnumber, he
  · rintro ⟨other, path', nearest, event, ho, hc', hn, hnumber, he⟩
    cases ho.eq h
    cases hc.symm.trans hc'
    use nearest, event, hn, hnumber, he

theorem event?_eq_error_iff {assembly : Option AssemblyName} {basis requested : Option Int64} :
  event? assembly basis requested = .error e
    ↔ ∃ b r, basis = some b ∧ requested = some r
      ∧ e = .eventConflict ((assembly.map AssemblyName.text).getD "") b r
  := by
  cases basis with
  | none => simp [event?]
  | some basis =>
    cases requested with
    | none => simp [event?]
    | some requested => simp [event?, eq_comm]

theorem eventConflict_iff {assembly : AssemblyName} {basis : Option Int64}
    (h : InForce settings doc config name) (hp : AssemblyName.parse name = .ok assembly)
    (hb : doc.basisEvent (some name) = .ok basis) :
  event? (some assembly) basis settings.event = .error e ↔ EventConflict settings doc config e
  := by
  rw [event?_eq_error_iff, Option.map_some, AssemblyName.text_of_parse hp, Option.getD_some]
  constructor
  · rintro ⟨b, r, rfl, hr, he⟩
    use name, b, r, h, hb, hr, he
  · rintro ⟨other, b, r, ho, hb', hr, he⟩
    cases ho.eq h
    cases hb.symm.trans hb'
    use b, r, rfl, hr, he

/-! ### The first cause -/

theorem settle_eq_error_iff_of_inForce (h : InForce settings doc config name) :
  settle settings doc config = .error e ↔ FirstOf (failures settings doc config) e
  := by
  rw [settle_of_inForce h]
  apply bind_eq_error_iff_firstOf
  · intro e'
    apply groupFailure_iff h
  intro resolved hg
  obtain ⟨path, hc⟩ := ReleasesDocument.exists_chain_of_resolve_eq_ok hg
  apply bind_eq_error_iff_firstOf
  · intro e'
    apply nameFailure_iff h
  intro assembly hp
  apply bind_eq_error_iff_firstOf
  · intro e'
    apply eventFailure_iff h hc
  intro basis hb
  apply bind_eq_error_iff_firstOf
  · intro e'
    apply eventConflict_iff h hp hb
  intro event _
  constructor
  · nofun
  · nofun

/-- Without an assembly in force only the first cause applies. -/
theorem settle_eq_error_iff_of_not_inForce (h : ∀ name, ¬ InForce settings doc config name) :
  settle settings doc config = .error e ↔ GroupFailure settings doc config e
  := by
  rw [settle_of_not_inForce h, Except.map_eq_error_iff]
  constructor
  · intro hg
    cases hr : requested? settings with
    | none =>
      rw [hr] at hg
      cases hg
    | some name =>
      obtain ⟨ha, hn⟩ := requested?_eq_some_iff.1 hr
      rw [hr] at hg
      use name, ha, hn, hg
  · rintro ⟨name, ha, hn, hg⟩
    rw [requested?_eq_some_iff.2 ⟨ha, hn⟩, hg]

theorem firstOf_failures_iff_of_not_inForce (h : ∀ name, ¬ InForce settings doc config name) :
  FirstOf (failures settings doc config) e ↔ GroupFailure settings doc config e
  := by
  constructor
  · intro hfirst
    obtain ⟨cause, hm, hc⟩ := hfirst.exists_mem
    simp only [failures, List.mem_cons, List.not_mem_nil, or_false] at hm
    rcases hm with rfl | rfl | rfl | rfl
    · apply hc
    · obtain ⟨name, _, hname, -⟩ := hc
      exact absurd hname (h name)
    · obtain ⟨name, _, _, _, hname, -⟩ := hc
      exact absurd hname (h name)
    · obtain ⟨name, _, _, hname, -⟩ := hc
      exact absurd hname (h name)
  · intro hg
    exact .inl hg

/-- Settling a run fails exactly if one of its four causes applies, and it reports the first
one that does: a configuration of the group that cannot be resolved, which is a cycle or a
sequence that cannot be ordered, also where assemblies turn out not to be enabled; a malformed
name; a nearest event without a number; two events.  Without an assembly in force it fails for
the first cause alone. -/
theorem settle_reports_first_failure (settings : Settings) (doc : ReleasesDocument)
    (config : Tree) :
  (∀ e, settle settings doc config = .error e ↔ FirstOf (failures settings doc config) e)
    ∧ ((∃ e, settle settings doc config = .error e)
      ↔ ∃ cause ∈ failures settings doc config, ∃ e, cause e)
    ∧ (∀ e, GroupFailure settings doc config e → e.IsCycle ∨ e.IsUnorderable)
    ∧ ((∀ name, ¬ InForce settings doc config name) →
      ∀ e, settle settings doc config = .error e ↔ GroupFailure settings doc config e)
  := by
  have hfirst : ∀ e, settle settings doc config = .error e
      ↔ FirstOf (failures settings doc config) e := by
    intro e
    by_cases h : ∃ name, InForce settings doc config name
    · obtain ⟨name, h⟩ := h
      apply settle_eq_error_iff_of_inForce h
    · rw [not_exists] at h
      rw [settle_eq_error_iff_of_not_inForce h, firstOf_failures_iff_of_not_inForce h]
  refine ⟨hfirst, ?_, ?_, ?_⟩
  · rw [← exists_firstOf_iff]
    apply exists_congr hfirst
  · rintro e ⟨name, -, -, hg⟩
    apply ReleasesDocument.isCycle_or_isUnorderable_of_groupConfig hg
  · intro h e
    apply settle_eq_error_iff_of_not_inForce h

/-! ### Two faults at once -/

theorem not_groupFailure {resolved : Tree} (h : InForce settings doc config name)
    (hg : doc.groupConfig (some name) config = .ok resolved) :
  ¬ GroupFailure settings doc config e
  := by
  intro hf
  cases hg.symm.trans ((groupFailure_iff h).2 hf)

/-- The event of the settings conflicts with that of the assembly `on` although they are the
same, and a malformed name is reported before the event that is no number.  Where the assembly
disables assemblies, its event and that of the settings go together. -/
theorem settle_switchingReleases :
  settle (asking "on" (some 7)) switchingReleases .null = .error (.eventConflict "on" 7 7)
    ∧ settle (asking "on." (some 7)) switchingReleases .null
      = .error (.invalidName "on." .outerDot)
    ∧ (∀ name, ¬ InForce (asking "off" (some 5)) switchingReleases (switch true) name)
    ∧ ∀ e, settle (asking "off" (some 5)) switchingReleases (switch true) = .error e
      ↔ GroupFailure (asking "off" (some 5)) switchingReleases (switch true) e
  := by
  refine ⟨?_, ?_, not_inForce_off (some 5), ?_⟩
  · have h := inForce_on (some 7)
    have hc : switchingReleases.chain "on" = .ok ["on"] := by decide +kernel
    apply ((settle_reports_first_failure _ _ _).1 _).2
    refine .inr ⟨fun e => not_groupFailure h groupConfig_on, .inr ⟨?_, .inr ⟨?_, .inl ?_⟩⟩⟩
    · intro e hf
      cases (AssemblyName.parse_text ⟨"on", by decide⟩).symm.trans ((nameFailure_iff h).2 hf)
    · intro e hf
      cases basisEvent_on.symm.trans ((eventFailure_iff h hc).2 hf)
    · exact ⟨"on", 7, 7, h, basisEvent_on, rfl, rfl⟩
  · have hg : switchingReleases.groupConfig (some "on.") .null = .ok (switch true) := by
      decide +kernel
    have h : InForce (asking "on." (some 7)) switchingReleases .null "on." :=
      ⟨rfl, by decide, .inr ⟨switch true, .bool true, hg, by decide⟩⟩
    apply ((settle_reports_first_failure _ _ _).1 _).2
    refine .inr ⟨fun e => not_groupFailure h hg, .inl ?_⟩
    exact ⟨"on.", .outerDot, h, by decide, rfl⟩
  · apply (settle_reports_first_failure _ _ _).2.2.2 (not_inForce_off (some 5))

end Context

end LayeredConfig
