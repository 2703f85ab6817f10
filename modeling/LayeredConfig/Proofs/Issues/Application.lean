import LayeredConfig.Proofs.Issues.Overrides

/-!
# Application of issue overrides

Consistent overrides leave of a list of candidates what they do not exclude, in its place, and append
what they include and the list lacks, in ascending order (`applyTo_eq_append`).  The result holds an
issue if it is included, or a candidate that is not excluded (`mem_applyTo`).  What is read from a
configuration is consistent, and so it changes a list that it has corrected no more
(`applyTo_corrects_candidates`).
-/

namespace LayeredConfig.IssueOverrides

variable {overrides : IssueOverrides} {config : Option Tree} {candidates : List UInt64}

/-! ### Appending what is missing -/

theorem mem_adjoinId {ids : List UInt64} {id x : UInt64} :
  x ∈ adjoinId ids id ↔ x ∈ ids ∨ x = id
  := by
  rw [adjoinId]
  split
  · next h =>
    have hid : id ∈ ids := List.contains_iff_mem.1 h
    constructor
    · apply Or.inl
    · rintro (hx | rfl)
      · apply hx
      · apply hid
  · rw [List.mem_append, List.mem_singleton]

/-- Appending different ids one after the other appends those that the list lacks: none of them is
there because another one has been appended. -/
theorem foldl_adjoinId {ids : List UInt64} (h : ids.Nodup) (result : List UInt64) :
  ids.foldl adjoinId result = result ++ ids.filter fun id => id ∉ result
  := by
  induction ids generalizing result with
  | nil => simp
  | cons id ids ih =>
    obtain ⟨hid, hids⟩ := List.nodup_cons.1 h
    have hlater : (ids.filter fun x => x ∉ adjoinId result id) = ids.filter fun x => x ∉ result := by
      apply List.filter_congr
      intro x hx
      have hne : x ≠ id := ne_of_mem_of_not_mem hx hid
      simp [mem_adjoinId, hne]
    rw [List.foldl_cons, ih hids, hlater, adjoinId]
    by_cases hmem : id ∈ result
    · simp [hmem]
    · simp [hmem]

/-! ### Consistent overrides -/

theorem consistent_empty :
  empty.Consistent
  where
  included := .nil
  excluded := .nil
  disjoint := List.forall_mem_nil _

/-- Overrides that are read are consistent; without a configuration there are none. -/
theorem consistent_of_ofConfig (h : config.elim (.ok .empty) ofConfig = .ok overrides) :
  overrides.Consistent
  := by
  cases config with
  | none =>
    cases h
    apply consistent_empty
  | some config => apply (ofConfig_eq_ok_iff.1 h).1

namespace Consistent

variable (h : overrides.Consistent)
include h

theorem nodup_included :
  overrides.included.Nodup
  := h.included.imp UInt64.ne_of_lt

/-- The candidates that are not excluded stay, and the included issues that are no candidates are
appended. -/
theorem applyTo_eq_append (candidates : List UInt64) :
  overrides.applyTo candidates
    = (candidates.filter fun id => id ∉ overrides.excluded)
      ++ overrides.included.filter fun id => id ∉ candidates
  := by
  have hkept : (candidates.filter fun id => !overrides.excluded.contains id)
      = candidates.filter fun id => id ∉ overrides.excluded := by
    simp
  rw [applyTo, foldl_adjoinId h.nodup_included, hkept]
  congr 1
  -- an included issue is not excluded, so it is kept if it is a candidate
  apply List.filter_congr
  intro id hid
  simp [h.disjoint id hid]

theorem mem_applyTo {id : UInt64} :
  id ∈ overrides.applyTo candidates
    ↔ id ∈ overrides.included ∨ id ∈ candidates ∧ id ∉ overrides.excluded
  := by
  rw [h.applyTo_eq_append, List.mem_append, List.mem_filter, List.mem_filter, decide_eq_true_iff,
    decide_eq_true_iff]
  by_cases hid : id ∈ candidates
  · have := h.disjoint id
    tauto
  · tauto

/-- A corrected list stays as it is. -/
theorem applyTo_applyTo (candidates : List UInt64) :
  overrides.applyTo (overrides.applyTo candidates) = overrides.applyTo candidates
  := by
  have hkept : ((overrides.applyTo candidates).filter fun id => id ∉ overrides.excluded)
      = overrides.applyTo candidates := by
    apply List.filter_eq_self.2
    intro id hid
    rcases h.mem_applyTo.1 hid with hincluded | ⟨-, hexcluded⟩
    · apply decide_eq_true (h.disjoint id hincluded)
    · apply decide_eq_true hexcluded
  have hmissing : (overrides.included.filter fun id => id ∉ overrides.applyTo candidates) = [] := by
    apply List.filter_eq_nil_iff.2
    intro id hid
    rw [decide_eq_true_iff, not_not]
    apply h.mem_applyTo.2 (.inl hid)
  rw [h.applyTo_eq_append (overrides.applyTo candidates), hkept, hmissing, List.append_nil]

end Consistent

/-- What is read from a configuration corrects a list of candidates: it removes the excluded ids and
leaves the others as they stand, and then come the included ids that are no candidates, in strictly
ascending order.  All included ids are in the result and no excluded one is, and correcting it again
changes nothing. -/
theorem applyTo_corrects_candidates (h : config.elim (.ok .empty) ofConfig = .ok overrides)
    (candidates : List UInt64) :
  (∃ missing, overrides.applyTo candidates
        = (candidates.filter fun id => id ∉ overrides.excluded) ++ missing
      ∧ missing.Pairwise (· < ·)
      ∧ ∀ id, id ∈ missing ↔ id ∈ overrides.included ∧ id ∉ candidates)
    ∧ (∀ id ∈ overrides.included, id ∈ overrides.applyTo candidates)
    ∧ (∀ id ∈ overrides.excluded, id ∉ overrides.applyTo candidates)
    ∧ overrides.applyTo (overrides.applyTo candidates) = overrides.applyTo candidates
  := by
  have hc := consistent_of_ofConfig h
  refine ⟨?_, ?_, ?_, hc.applyTo_applyTo candidates⟩
  · use overrides.included.filter fun id => id ∉ candidates
    refine ⟨hc.applyTo_eq_append candidates, hc.included.filter _, ?_⟩
    intro id
    rw [List.mem_filter, decide_eq_true_iff]
  · intro id hid
    apply hc.mem_applyTo.2 (.inl hid)
  · intro id hid hmem
    rcases hc.mem_applyTo.1 hmem with hincluded | ⟨-, hexcluded⟩
    · apply hc.disjoint id hincluded hid
    · apply hexcluded hid

/-- A stanza that includes two issues, one of them in two spellings, and excludes a third one. -/
def sweepStanza : Tree :=
  .mapping [("exclude", .sequence [.mapping [("id", .integer 2)]]),
    ("include", .sequence [.mapping [("id", .string "9")], .mapping [("id", .integer 3)],
      .mapping [("id", .string "03")]])]

/-- Repeated candidates stay repeated. -/
theorem applyTo_corrects_candidates_sweepStanza :
  (some sweepStanza).elim (.ok .empty) ofConfig = .ok ⟨[3, 9], [2]⟩
    ∧ (∃ missing, applyTo ⟨[3, 9], [2]⟩ [5, 2, 3, 5, 2]
          = ([5, 2, 3, 5, 2].filter fun id => id ∉ [2]) ++ missing
        ∧ missing.Pairwise (· < ·) ∧ ∀ id, id ∈ missing ↔ id ∈ [3, 9] ∧ id ∉ [5, 2, 3, 5, 2])
    ∧ (∀ id ∈ [3, 9], id ∈ applyTo ⟨[3, 9], [2]⟩ [5, 2, 3, 5, 2])
    ∧ (∀ id ∈ [2], id ∉ applyTo ⟨[3, 9], [2]⟩ [5, 2, 3, 5, 2])
    ∧ applyTo ⟨[3, 9], [2]⟩ (applyTo ⟨[3, 9], [2]⟩ [5, 2, 3, 5, 2])
      = applyTo ⟨[3, 9], [2]⟩ [5, 2, 3, 5, 2]
    ∧ applyTo ⟨[3, 9], [2]⟩ [5, 2, 3, 5, 2] = [5, 3, 5, 9]
  := by
  have hread : (some sweepStanza).elim (.ok .empty) ofConfig = .ok ⟨[3, 9], [2]⟩ := by
    decide +kernel
  obtain ⟨hsplit, hincluded, hexcluded, hagain⟩ :=
    applyTo_corrects_candidates hread [5, 2, 3, 5, 2]
  exact ⟨hread, hsplit, hincluded, hexcluded, hagain, by decide +kernel⟩

end LayeredConfig.IssueOverrides
