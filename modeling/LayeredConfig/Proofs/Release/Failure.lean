import LayeredConfig.Issues
import LayeredConfig.Proofs.Release.Configuration
import LayeredConfig.Proofs.Release.Event

/-!
# Failures of resolving

Everything that is resolved for an assembly fails with the error of its chain, if that fails,
whatever the assembly holds (`FailsWith`).  If the chain ends, so do the chains of all names
on it, and nothing that is resolved for any of them fails with a cycle (`NeverCyclic`): what
is merged fails only where a merged sequence cannot be ordered, the basis event only where it
is no number, and the issue overrides also where they contradict each other.
`resolve_rejects_cycles` says when there is a cycle.
-/

namespace LayeredConfig

/-! ### Failures of one layer -/

/-- Reading issue overrides fails only where an issue is both included and excluded. -/
theorem IssueOverrides.exists_of_ofConfig_eq_error {config : Tree} {e : Error}
    (h : IssueOverrides.ofConfig config = .error e) :
  ∃ ids, e = .issueConflict ids
  := by
  simp only [ofConfig] at h
  split at h
  · cases h
  · cases h
    exact ⟨_, rfl⟩

namespace ReleasesDocument

theorem isUnorderable_of_groupLayer {target : Assembly} {inherited : Tree} {e : Error}
    (h : groupLayer target inherited = .error e) :
  e.IsUnorderable
  := by
  rw [groupLayer] at h
  split at h
  · cases h
  · apply Tree.isUnorderable_of_mergeOver h

theorem isUnorderable_of_memberLayer {kind : MemberKind} {key : String} {target : Assembly}
    {inherited : Tree} {e : Error} (h : memberLayer kind key target inherited = .error e) :
  e.IsUnorderable
  := by
  apply Tree.isUnorderable_of_mergeLayers h

theorem isUnorderable_of_fieldLayer {field : String} {target : Assembly}
    {inherited : Option Tree} {e : Error} (h : fieldLayer field target inherited = .error e) :
  e.IsUnorderable
  := by
  unfold fieldLayer at h
  split at h
  · apply Tree.isUnorderable_of_mergeOver (Except.map_eq_error_iff.1 h)
  · cases h
  · cases h

variable {doc : ReleasesDocument} {α : Type} {layer : Assembly → α → Except Error α}

/-! ### Resolving -/

theorem resolve_of_chain_eq_error {name : String} {e : Error} (h : doc.chain name = .error e)
    (layer : Assembly → α → Except Error α) (seed : α) :
  doc.resolve (some name) layer seed = .error e
  := by
  rw [resolve_some, h]
  rfl

/-- Resolving succeeds only along a chain that ends. -/
theorem exists_chain_of_resolve_eq_ok {name : String} {seed result : α}
    (h : doc.resolve (some name) layer seed = .ok result) :
  ∃ path, doc.chain name = .ok path
  := by
  cases hc : doc.chain name with
  | error e => cases (resolve_of_chain_eq_error hc layer seed).symm.trans h
  | ok path => use path

/-- Along a chain that ends, resolving fails only where a layer fails. -/
theorem exists_of_resolve_eq_error {name : String} {path : List String} {seed : α} {e : Error}
    (hc : doc.chain name = .ok path) (h : doc.resolve (some name) layer seed = .error e) :
  ∃ target inherited, layer target inherited = .error e
  := by
  rw [resolve_some, hc] at h
  obtain ⟨_, other, _, inherited, -, -, hother⟩ := List.foldlM_eq_error_iff.1 h
  cases ha : doc.assembly? other with
  | none =>
    rw [layerAt_of_undefined ha] at hother
    cases hother
  | some target =>
    rw [layerAt_of_defined ha] at hother
    use target, inherited

/-! ### Chains that fail -/

/-- Everything that is resolved for the assembly of a given name fails with the same error. -/
structure FailsWith (doc : ReleasesDocument) (name : String) (e : Error) : Prop where
  groupConfig (seed : Tree) : doc.groupConfig (some name) seed = .error e
  memberConfig (kind : MemberKind) (key : String) (seed : Tree) :
    doc.memberConfig (some name) kind key seed = .error e
  field (field : String) : doc.field field (some name) = .error e
  systemConfig : doc.systemConfig (some name) = .error e
  issuesConfig : doc.issuesConfig (some name) = .error e
  basisEvent : doc.basisEvent (some name) = .error e
  issueOverrides : doc.issueOverrides (some name) = .error e
  checkBasis : doc.checkBasis (some name) = .error e

theorem checkBasis_some (name : String) :
  doc.checkBasis (some name) = (doc.chain name).map fun _ => ()
  := by
  by_cases ha : doc.isStructured = true ∧ name ≠ ""
  · rw [checkBasis, active?_of_active ha.1 ha.2]
  · rw [checkBasis, active?_of_inactive ha, chain_of_inactive ha]
    rfl

/-- A chain that fails makes everything fail, and with its own error. -/
theorem failsWith_of_chain_eq_error {name : String} {e : Error} (h : doc.chain name = .error e) :
  doc.FailsWith name e
  := by
  have hfield : ∀ field, doc.field field (some name) = .error e :=
    fun field => resolve_of_chain_eq_error h (fieldLayer field) none
  exact {
    groupConfig := resolve_of_chain_eq_error h groupLayer
    memberConfig := fun kind key => resolve_of_chain_eq_error h (memberLayer kind key)
    field := hfield
    systemConfig := hfield "rhcos"
    issuesConfig := hfield "issues"
    basisEvent := by rw [basisEvent_some, h]; rfl
    issueOverrides := by rw [issueOverrides, issuesConfig, hfield]
    checkBasis := by rw [checkBasis_some, h]; rfl }

/-! ### Chains that end -/

section

variable {name : String} {path : List String}

theorem isUnorderable_of_groupConfig {seed : Tree} {e : Error} (hc : doc.chain name = .ok path)
    (h : doc.groupConfig (some name) seed = .error e) :
  e.IsUnorderable
  := by
  obtain ⟨target, inherited, ht⟩ := exists_of_resolve_eq_error hc h
  apply isUnorderable_of_groupLayer ht

/-- The configuration of the group fails with a cycle or where a merged sequence cannot be
ordered. -/
theorem isCycle_or_isUnorderable_of_groupConfig {seed : Tree} {e : Error}
    (h : doc.groupConfig (some name) seed = .error e) :
  e.IsCycle ∨ e.IsUnorderable
  := by
  cases hc : doc.chain name with
  | error e' =>
    cases ((failsWith_of_chain_eq_error hc).groupConfig seed).symm.trans h
    obtain ⟨_, _, rfl, -⟩ := exists_of_chain_eq_error hc
    left
    trivial
  | ok path =>
    right
    apply isUnorderable_of_groupConfig hc h

theorem isUnorderable_of_memberConfig {kind : MemberKind} {key : String} {seed : Tree} {e : Error}
    (hc : doc.chain name = .ok path) (h : doc.memberConfig (some name) kind key seed = .error e) :
  e.IsUnorderable
  := by
  obtain ⟨target, inherited, ht⟩ := exists_of_resolve_eq_error hc h
  apply isUnorderable_of_memberLayer ht

theorem isUnorderable_of_field {field : String} {e : Error} (hc : doc.chain name = .ok path)
    (h : doc.field field (some name) = .error e) :
  e.IsUnorderable
  := by
  obtain ⟨target, inherited, ht⟩ := exists_of_resolve_eq_error hc h
  apply isUnorderable_of_fieldLayer ht

/-- The basis event fails only where the event of an assembly is no number. -/
theorem exists_of_basisEvent_eq_error {e : Error} (hc : doc.chain name = .ok path)
    (h : doc.basisEvent (some name) = .error e) :
  ∃ assembly event, e = .invalidEvent assembly event
  := by
  obtain ⟨nearest, event, -, -, he⟩ := (basisEvent_eq_error_iff hc).1 h
  use nearest, event, he

/-- The issue overrides fail only where the field cannot be merged or an issue is both included
and excluded. -/
theorem isUnorderable_or_exists_of_issueOverrides {e : Error} (hc : doc.chain name = .ok path)
    (h : doc.issueOverrides (some name) = .error e) :
  e.IsUnorderable ∨ ∃ ids, e = .issueConflict ids
  := by
  rw [issueOverrides] at h
  split at h
  · next he =>
    cases h
    left
    apply isUnorderable_of_field hc he
  · cases h
  · right
    apply IssueOverrides.exists_of_ofConfig_eq_error h

theorem checkBasis_of_chain_eq_ok (hc : doc.chain name = .ok path) :
  doc.checkBasis (some name) = .ok ()
  := by
  rw [checkBasis_some, hc]
  rfl

/-- From every name on a chain another chain ends, the rest of the first one. -/
theorem exists_chain_of_mem {other : String} (hc : doc.chain name = .ok path) (ho : other ∈ path) :
  ∃ rest, doc.chain other = .ok rest ∧ rest <:+ path
  := by
  by_cases ha : doc.isStructured = true ∧ name ≠ ""
  · obtain ⟨hs, hn⟩ := ha
    have hl := (chain_eq_ok_iff hs hn).1 hc
    obtain ⟨rest, hr, hsuffix⟩ := hl.exists_suffix ho
    use rest, (chain_eq_ok_iff hs (hl.ne_empty hn ho)).2 hr
  · cases (chain_of_inactive ha).symm.trans hc
    cases ho

end

/-- Nothing that is resolved for the assembly of a given name fails with a cycle. -/
structure NeverCyclic (doc : ReleasesDocument) (name : String) : Prop where
  groupConfig (seed : Tree) (e : Error) :
    doc.groupConfig (some name) seed = .error e → ¬ e.IsCycle
  memberConfig (kind : MemberKind) (key : String) (seed : Tree) (e : Error) :
    doc.memberConfig (some name) kind key seed = .error e → ¬ e.IsCycle
  field (field : String) (e : Error) : doc.field field (some name) = .error e → ¬ e.IsCycle
  systemConfig (e : Error) : doc.systemConfig (some name) = .error e → ¬ e.IsCycle
  issuesConfig (e : Error) : doc.issuesConfig (some name) = .error e → ¬ e.IsCycle
  basisEvent (e : Error) : doc.basisEvent (some name) = .error e → ¬ e.IsCycle
  issueOverrides (e : Error) : doc.issueOverrides (some name) = .error e → ¬ e.IsCycle
  checkBasis (e : Error) : doc.checkBasis (some name) = .error e → ¬ e.IsCycle

/-- A chain that ends keeps everything from failing with a cycle. -/
theorem neverCyclic_of_chain_eq_ok {name : String} {path : List String}
    (hc : doc.chain name = .ok path) :
  doc.NeverCyclic name
  := by
  have hfield : ∀ field e, doc.field field (some name) = .error e → ¬ e.IsCycle := by
    intro field e h
    apply (isUnorderable_of_field hc h).not_isCycle
  constructor
  case groupConfig =>
    intro seed e h
    apply (isUnorderable_of_groupConfig hc h).not_isCycle
  case memberConfig =>
    intro kind key seed e h
    apply (isUnorderable_of_memberConfig hc h).not_isCycle
  case field => apply hfield
  case systemConfig => apply hfield
  case issuesConfig => apply hfield
  case basisEvent =>
    intro e h
    obtain ⟨assembly, event, rfl⟩ := exists_of_basisEvent_eq_error hc h
    nofun
  case issueOverrides =>
    intro e h
    rcases isUnorderable_or_exists_of_issueOverrides hc h with hu | ⟨ids, rfl⟩
    · apply hu.not_isCycle
    · nofun
  case checkBasis =>
    intro e h
    rw [checkBasis_of_chain_eq_ok hc] at h
    cases h

/-! ### Cycles -/

/-- Exactly the chains that fail make what is resolved for an assembly fail with a cycle.  A
chain that fails makes everything fail with its own error, before the layers are looked at;
along a chain that ends no guard fails, and nothing fails with a cycle. -/
theorem resolve_rejects_cycles (doc : ReleasesDocument) (name : String) :
  (∀ e, doc.chain name = .error e → e.IsCycle ∧ doc.FailsWith name e)
    ∧ ∀ path, doc.chain name = .ok path → doc.NeverCyclic name
      ∧ ∀ other ∈ path, (∃ rest, doc.chain other = .ok rest ∧ rest <:+ path)
        ∧ doc.NeverCyclic other
  := by
  constructor
  · intro e h
    obtain ⟨path, repeated, rfl, -⟩ := exists_of_chain_eq_error h
    exact ⟨trivial, failsWith_of_chain_eq_error h⟩
  · intro path hc
    refine ⟨neverCyclic_of_chain_eq_ok hc, ?_⟩
    intro other ho
    obtain ⟨rest, hr, hsuffix⟩ := exists_chain_of_mem hc ho
    exact ⟨⟨rest, hr, hsuffix⟩, neverCyclic_of_chain_eq_ok hr⟩

theorem resolve_rejects_cycles_loopedReleases :
  loopedReleases.FailsWith "start" (.cycle "start" "left" ["start", "left", "right", "left"])
    ∧ loopedReleases.NeverCyclic "leaf"
  := by
  have hstart : loopedReleases.chain "start"
      = .error (.cycle "start" "left" ["start", "left", "right", "left"]) := by decide +kernel
  have hleaf : loopedReleases.chain "leaf" = .ok ["leaf", "gone"] := by decide +kernel
  constructor
  · apply ((resolve_rejects_cycles loopedReleases "start").1 _ hstart).2
  · apply ((resolve_rejects_cycles loopedReleases "leaf").2 _ hleaf).1

end ReleasesDocument

end LayeredConfig
