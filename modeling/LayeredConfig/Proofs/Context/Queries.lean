import LayeredConfig.Proofs.Context.Coherence
import LayeredConfig.Proofs.Release.Failure

/-!
# Queries of a settled context

Settling a run walks along the bases of the assembly in force.  A context that it gives has no
assembly or one whose chain of bases ends (`chain_of_settle`), so that its queries cannot meet a
cycle any more.  They fail only where a merged sequence cannot be ordered, and the issue overrides
also where an issue is both included and excluded (`usable_of_settle`).
-/

namespace LayeredConfig

/-- Whether an error is that of an event without a number. -/
def Error.IsInvalidEvent : Error → Prop
  | .invalidEvent _ _ => True
  | _ => False

/-- Whether an error is that of a malformed or unknown name. -/
def Error.IsInvalidName : Error → Prop
  | .invalidName _ _ => True
  | .unknownMemberKind _ => True
  | _ => False

namespace Context

variable {settings : Settings} {doc : ReleasesDocument} {config : Tree} {c : Context} {e : Error}

/-- Some query of a context fails with an error. -/
inductive QueryFails (c : Context) (e : Error) : Prop
  | memberConfig (kind : MemberKind) (key : String) (seed : Tree) :
    c.memberConfig kind key seed = .error e → QueryFails c e
  | systemConfig : c.systemConfig = .error e → QueryFails c e
  | issuesConfig : c.issuesConfig = .error e → QueryFails c e
  | issueOverrides : c.issueOverrides = .error e → QueryFails c e
  | checkBasis : c.checkBasis = .error e → QueryFails c e

/-- The check of the bases succeeds, and the other queries fail only for what the assemblies
along the chain hold. -/
structure Usable (c : Context) : Prop where
  checkBasis : c.checkBasis = .ok ()
  memberConfig (kind : MemberKind) (key : String) (seed : Tree) (e : Error) :
    c.memberConfig kind key seed = .error e → e.IsUnorderable
  systemConfig (e : Error) : c.systemConfig = .error e → e.IsUnorderable
  issuesConfig (e : Error) : c.issuesConfig = .error e → e.IsUnorderable
  issueOverrides (e : Error) :
    c.issueOverrides = .error e → e.IsUnorderable ∨ ∃ ids, e = .issueConflict ids

/-! ### The assembly of a context -/

/-- The assembly of a settled context has a chain of bases that ends: the configuration of the
group was resolved along it. -/
theorem chain_of_settle (hc : settle settings doc config = .ok c) {name : String}
    (hname : c.assemblyName = some name) :
  ∃ path, c.releases.chain name = .ok path
  := by
  have h := (assemblyName_eq_some_iff hc).1 hname
  obtain ⟨_, -, hr, -, hg, -⟩ := (settle_eq_ok_iff_of_inForce h).1 hc
  rw [hr]
  apply ReleasesDocument.exists_chain_of_resolve_eq_ok hg

/-- Without an assembly every query succeeds. -/
theorem usable_of_none (hnone : c.assemblyName = none) :
  c.Usable
  := by
  constructor
  case checkBasis =>
    rw [checkBasis, hnone]
    rfl
  case memberConfig =>
    intro kind key seed e h
    rw [memberConfig, hnone] at h
    cases h
  case systemConfig =>
    intro e h
    rw [systemConfig, hnone] at h
    cases h
  case issuesConfig =>
    intro e h
    rw [issuesConfig, hnone] at h
    cases h
  case issueOverrides =>
    intro e h
    rw [issueOverrides, hnone] at h
    cases h

/-- With an assembly whose chain of bases ends, queries fail only where a layer does. -/
theorem usable_of_chain {name : String} {path : List String} (hname : c.assemblyName = some name)
    (hc : c.releases.chain name = .ok path) :
  c.Usable
  := by
  constructor
  case checkBasis =>
    rw [checkBasis, hname]
    apply ReleasesDocument.checkBasis_of_chain_eq_ok hc
  case memberConfig =>
    intro kind key seed e h
    rw [memberConfig, hname] at h
    apply ReleasesDocument.isUnorderable_of_memberConfig hc h
  case systemConfig =>
    intro e h
    rw [systemConfig, hname] at h
    apply ReleasesDocument.isUnorderable_of_field hc h
  case issuesConfig =>
    intro e h
    rw [issuesConfig, hname] at h
    apply ReleasesDocument.isUnorderable_of_field hc h
  case issueOverrides =>
    intro e h
    rw [issueOverrides, hname] at h
    apply ReleasesDocument.isUnorderable_or_exists_of_issueOverrides hc h

/-! ### The queries -/

theorem Usable.isUnorderable_or_exists (h : c.Usable) (he : c.QueryFails e) :
  e.IsUnorderable ∨ ∃ ids, e = .issueConflict ids
  := by
  cases he with
  | memberConfig kind key seed he => exact .inl (h.memberConfig kind key seed e he)
  | systemConfig he => exact .inl (h.systemConfig e he)
  | issuesConfig he => exact .inl (h.issuesConfig e he)
  | issueOverrides he => exact h.issueOverrides e he
  | checkBasis he => cases h.checkBasis.symm.trans he

/-- Once a run is settled, the check of the bases succeeds, and every other query fails only where
a merged sequence cannot be ordered, or for issues that are both included and excluded where it
asks for the overrides.  No query fails with a cycle, with an event without a number or with a
malformed name. -/
theorem usable_of_settle (hc : settle settings doc config = .ok c) :
  c.Usable
    ∧ ∀ e, c.QueryFails e → ¬ e.IsCycle ∧ ¬ e.IsInvalidEvent ∧ ¬ e.IsInvalidName
  := by
  have husable : c.Usable := by
    cases hname : c.assemblyName with
    | none => apply usable_of_none hname
    | some name =>
      obtain ⟨path, hchain⟩ := chain_of_settle hc hname
      apply usable_of_chain hname hchain
  use husable
  intro e he
  rcases husable.isUnorderable_or_exists he with hu | ⟨ids, rfl⟩
  · cases e with
    | unorderable => exact ⟨nofun, nofun, nofun⟩
    | _ => cases hu
  · exact ⟨nofun, nofun, nofun⟩

/-! ### Releases that contradict each other -/

/-- The upper release lists a word where the lower one lists a number, and excludes the issue that
the lower one includes. -/
def quarrellingReleases : ReleasesDocument where
  root := .mapping [("releases", .mapping [
    ("lower", ReleasesDocument.release [] [
      ("issues", .mapping [("include", .sequence [.mapping [("id", .integer 7)]])]),
      ("rhcos", .sequence [.integer 1])]),
    ("upper", ReleasesDocument.release [("assembly", .string "lower")] [
      ("issues", .mapping [("exclude", .sequence [.mapping [("id", .string "007")]])]),
      ("rhcos", .sequence [.string "one"])])])]

/-- The settings of a run that forces an assembly. -/
def forcing (name : String) : Settings where
  assembly := some name
  enableAssemblies := true

/-- The context of a run that forces the assembly `upper`. -/
def contextUpper : Context where
  releases := quarrellingReleases
  assembly := some ⟨"upper", by decide⟩
  groupConfig := .null
  basisEvent := none
  event := none

theorem settle_upper :
  settle (forcing "upper") quarrellingReleases .null = .ok contextUpper
  := by
  have hforced : InForce (forcing "upper") quarrellingReleases .null "upper" :=
    ⟨rfl, by decide, .inl rfl⟩
  have hgroup : quarrellingReleases.groupConfig (some "upper") .null = .ok .null := by
    decide +kernel
  have hbasis : quarrellingReleases.basisEvent (some "upper") = .ok none := by decide +kernel
  apply (settle_eq_ok_iff_of_inForce hforced).2
  use ⟨"upper", by decide⟩, AssemblyName.parse_text ⟨"upper", by decide⟩, rfl, rfl, hgroup, hbasis
  rfl

/-- The releases contradict each other only once their queries are asked, and then in the two ways
that are left. -/
theorem usable_contextUpper :
  settle (forcing "upper") quarrellingReleases .null = .ok contextUpper
    ∧ contextUpper.checkBasis = .ok ()
    ∧ contextUpper.systemConfig = .error (.unorderable (.integer 1) (.string "one"))
    ∧ contextUpper.issueOverrides = .error (.issueConflict [7])
    ∧ ∀ e, contextUpper.QueryFails e → ¬ e.IsCycle ∧ ¬ e.IsInvalidEvent ∧ ¬ e.IsInvalidName
  := by
  obtain ⟨husable, hnever⟩ := usable_of_settle settle_upper
  use settle_upper, husable.checkBasis, by decide +kernel, by decide +kernel, hnever

end Context

end LayeredConfig
