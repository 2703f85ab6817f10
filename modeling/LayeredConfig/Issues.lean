import LayeredConfig.Release.Resolution

/-!
# Issue overrides

An assembly can name issues that are included in a release or excluded from it in any case.
`IssueOverrides.ofConfig` reads the two sets of ids from a configuration and refuses sets that
meet; `IssueOverrides.applyTo` corrects a list of candidates by them.
-/

namespace LayeredConfig

/-! ### Ids -/

/-- Puts an id into an ascending list of ids that does not have it. -/
def insertId (id : UInt64) : List UInt64 → List UInt64
  | [] => [id]
  | other :: rest =>
    if id < other then id :: other :: rest
    else if id = other then other :: rest
    else other :: insertId id rest

/-- The different ids of a list in ascending order. -/
def ascendingIds (ids : List UInt64) : List UInt64 :=
  ids.foldl (fun ascending id => insertId id ascending) []

theorem mem_insertId {id x : UInt64} {ids : List UInt64} :
  x ∈ insertId id ids ↔ x = id ∨ x ∈ ids
  := by
  induction ids with
  | nil => simp [insertId]
  | cons other rest ih =>
    rw [insertId]
    split
    · simp
    · split
      · next h => simp [h]
      · simp [ih, or_left_comm]

theorem mem_ascendingIds {x : UInt64} {ids : List UInt64} :
  x ∈ ascendingIds ids ↔ x ∈ ids
  := by
  have (acc : List UInt64) :
      x ∈ ids.foldl (fun ascending id => insertId id ascending) acc ↔ x ∈ acc ∨ x ∈ ids := by
    induction ids generalizing acc with
    | nil => simp
    | cons id ids ih =>
      rw [List.foldl_cons, ih, mem_insertId, List.mem_cons]
      simp only [or_assoc, or_left_comm]
  simp [ascendingIds, this]

/-- The id of an issue: a non-negative integer, or a run of decimal digits. -/
def Tree.issueId? (entry : Tree) : Option UInt64 :=
  match entry.get? "id" with
  | some (.integer i) => if 0 ≤ i.toInt then some (.ofNat i.toInt.toNat) else none
  | some (.string s) =>
    (Text.decimal? s.toList).bind fun n => if n < UInt64.size then some (.ofNat n) else none
  | _ => none

/-- The ids of the issues in a list, in ascending order; entries without an id are skipped. -/
def Tree.issueIds (entries : Tree) : List UInt64 :=
  ascendingIds (entries.items.filterMap Tree.issueId?)

/-! ### Overrides -/

/-- Issues that are included or excluded in any case; both lists ascend. -/
structure IssueOverrides where
  included : List UInt64
  excluded : List UInt64
  deriving DecidableEq

namespace IssueOverrides

/-- The overrides that change nothing. -/
def empty : IssueOverrides := ⟨[], []⟩

/-- The overrides that a configuration describes. -/
def ofConfig (config : Tree) : Except Error IssueOverrides :=
  let included := (config.getOrNull "include").issueIds
  let excluded := (config.getOrNull "exclude").issueIds
  let conflicts := included.filter excluded.contains
  if conflicts.isEmpty then .ok ⟨included, excluded⟩ else .error (.issueConflict conflicts)

/-- Whether the overrides change nothing. -/
def isEmpty (overrides : IssueOverrides) : Bool :=
  overrides.included.isEmpty && overrides.excluded.isEmpty

/-- Appends an id unless the list has it. -/
def adjoinId (ids : List UInt64) (id : UInt64) : List UInt64 :=
  if ids.contains id then ids else ids ++ [id]

/-- The candidates without the excluded issues, then the included ones that are missing. -/
def applyTo (overrides : IssueOverrides) (candidates : List UInt64) : List UInt64 :=
  overrides.included.foldl adjoinId
    (candidates.filter fun id => !overrides.excluded.contains id)

end IssueOverrides

/-- The issue overrides of an assembly, merged along its chain of bases. -/
def ReleasesDocument.issueOverrides (doc : ReleasesDocument) (assembly : Option String) :
    Except Error IssueOverrides :=
  match doc.issuesConfig assembly with
  | .error e => .error e
  | .ok none => .ok .empty
  | .ok (some config) => IssueOverrides.ofConfig config

end LayeredConfig
