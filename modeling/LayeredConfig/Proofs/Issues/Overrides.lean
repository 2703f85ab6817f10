import LayeredConfig.Issues
import Mathlib.Data.List.Sort
import Mathlib.Data.Set.Operations
import Mathlib.Tactic.Use

/-!
# Reading issue overrides

A stanza lists an issue under a key if an entry of the list there has its id (`Tree.ListsIssue`).
Ids are read in strictly ascending order (`pairwise_ascendingIds`).  The overrides of a configuration
are the consistent ones with the ids that it lists (`IssueOverrides.ofConfig_eq_ok_iff`); ids that
are both included and excluded are a conflict (`IssueOverrides.ofConfig_eq_error_iff`).
`IssueOverrides.Answers` says the same of any two sets of ids that a result can be held against.
-/

namespace LayeredConfig

/-! ### Ascending ids -/

theorem pairwise_insertId {ids : List UInt64} (h : ids.Pairwise (· < ·)) (id : UInt64) :
  (insertId id ids).Pairwise (· < ·)
  := by
  induction ids with
  | nil => apply List.pairwise_singleton
  | cons other rest ih =>
    obtain ⟨hother, hrest⟩ := List.pairwise_cons.1 h
    rw [insertId]
    split
    · next hlt =>
      apply List.pairwise_cons.2 ⟨?_, h⟩
      intro x hx
      rcases List.mem_cons.1 hx with rfl | hx
      · apply hlt
      · apply UInt64.lt_trans hlt (hother x hx)
    · split
      · apply h
      · next hnlt hne =>
        apply List.pairwise_cons.2 ⟨?_, ih hrest⟩
        intro x hx
        rcases mem_insertId.1 hx with rfl | hx
        · apply UInt64.lt_of_le_of_ne (UInt64.not_lt.1 hnlt) (Ne.symm hne)
        · apply hother x hx

theorem pairwise_ascendingIds (ids : List UInt64) :
  (ascendingIds ids).Pairwise (· < ·)
  := by
  have hfold : ∀ ascending : List UInt64, ascending.Pairwise (· < ·) →
      (ids.foldl (fun ascending id => insertId id ascending) ascending).Pairwise (· < ·) := by
    induction ids with
    | nil => exact fun _ h => h
    | cons id ids ih =>
      intro ascending h
      apply ih _ (pairwise_insertId h id)
  apply hfold [] .nil

/-! ### Listed issues -/

namespace Tree

/-- An entry of the list under a key of a stanza has the id. -/
def ListsIssue (stanza : Tree) (key : String) (id : UInt64) : Prop :=
  ∃ entry ∈ (stanza.getOrNull key).items, entry.issueId? = some id

theorem mem_issueIds {stanza : Tree} {key : String} {id : UInt64} :
  id ∈ (stanza.getOrNull key).issueIds ↔ stanza.ListsIssue key id
  := by
  rw [issueIds, mem_ascendingIds, List.mem_filterMap]
  rfl

end Tree

/-! ### Overrides -/

namespace IssueOverrides

/-- A result is what the sets of included and excluded ids call for. -/
structure Answers (result : Except Error IssueOverrides) (included excluded : Set UInt64) :
    Prop where
  /-- Disjoint sets are the overrides. -/
  ok : (∀ id ∈ included, id ∉ excluded) → ∃ overrides, result = .ok overrides
    ∧ overrides.included.Pairwise (· < ·) ∧ (∀ id, id ∈ overrides.included ↔ id ∈ included)
    ∧ overrides.excluded.Pairwise (· < ·) ∧ ∀ id, id ∈ overrides.excluded ↔ id ∈ excluded
  /-- The ids that the sets share are the conflict. -/
  conflict : (included ∩ excluded).Nonempty → ∃ ids, result = .error (.issueConflict ids)
    ∧ ids.Pairwise (· < ·) ∧ ∀ id, id ∈ ids ↔ id ∈ included ∩ excluded

/-- Both lists ascend and they share no id. -/
structure Consistent (overrides : IssueOverrides) : Prop where
  included : overrides.included.Pairwise (· < ·)
  excluded : overrides.excluded.Pairwise (· < ·)
  disjoint : ∀ id ∈ overrides.included, id ∉ overrides.excluded

section

variable {config : Tree}

theorem mem_conflicts {included excluded : List UInt64} {id : UInt64} :
  id ∈ included.filter excluded.contains ↔ id ∈ included ∧ id ∈ excluded
  := by
  rw [List.mem_filter, List.contains_iff_mem]

/-- Without a conflict the overrides are the two lists of ids. -/
theorem ofConfig_of_disjoint
    (h : ∀ id, config.ListsIssue "include" id → ¬ config.ListsIssue "exclude" id) :
  ofConfig config
    = .ok ⟨(config.getOrNull "include").issueIds, (config.getOrNull "exclude").issueIds⟩
  := by
  simp only [ofConfig]
  rw [if_pos]
  rw [List.isEmpty_iff, List.eq_nil_iff_forall_not_mem]
  intro id hid
  obtain ⟨hincluded, hexcluded⟩ := mem_conflicts.1 hid
  apply h id (Tree.mem_issueIds.1 hincluded) (Tree.mem_issueIds.1 hexcluded)

/-- The ids on both lists are the conflict. -/
theorem ofConfig_of_meet {id : UInt64} (hincluded : config.ListsIssue "include" id)
    (hexcluded : config.ListsIssue "exclude" id) :
  ∃ ids, ofConfig config = .error (.issueConflict ids) ∧ ids.Pairwise (· < ·)
    ∧ ∀ id, id ∈ ids ↔ config.ListsIssue "include" id ∧ config.ListsIssue "exclude" id
  := by
  have hid := mem_conflicts.2 ⟨Tree.mem_issueIds.2 hincluded, Tree.mem_issueIds.2 hexcluded⟩
  use (config.getOrNull "include").issueIds.filter (config.getOrNull "exclude").issueIds.contains
  refine ⟨?_, (pairwise_ascendingIds _).filter _, ?_⟩
  · simp only [ofConfig]
    rw [if_neg]
    rw [List.isEmpty_iff]
    apply List.ne_nil_of_mem hid
  · intro other
    rw [mem_conflicts, Tree.mem_issueIds, Tree.mem_issueIds]

/-- The overrides that are read are the consistent ones with the ids that are listed. -/
theorem ofConfig_eq_ok_iff {overrides : IssueOverrides} :
  ofConfig config = .ok overrides
    ↔ overrides.Consistent ∧ (∀ id, id ∈ overrides.included ↔ config.ListsIssue "include" id)
      ∧ ∀ id, id ∈ overrides.excluded ↔ config.ListsIssue "exclude" id
  := by
  constructor
  · intro h
    have hdisjoint : ∀ id, config.ListsIssue "include" id → ¬ config.ListsIssue "exclude" id := by
      intro id hincluded hexcluded
      obtain ⟨ids, hconflict, -⟩ := ofConfig_of_meet hincluded hexcluded
      cases hconflict.symm.trans h
    obtain rfl := Except.ok.inj ((ofConfig_of_disjoint hdisjoint).symm.trans h)
    refine ⟨⟨pairwise_ascendingIds _, pairwise_ascendingIds _, ?_⟩, fun _ => Tree.mem_issueIds,
      fun _ => Tree.mem_issueIds⟩
    intro id hincluded hexcluded
    apply hdisjoint id (Tree.mem_issueIds.1 hincluded) (Tree.mem_issueIds.1 hexcluded)
  · rintro ⟨hconsistent, hincluded, hexcluded⟩
    have hdisjoint : ∀ id, config.ListsIssue "include" id → ¬ config.ListsIssue "exclude" id := by
      intro id hi he
      apply hconsistent.disjoint id ((hincluded id).2 hi) ((hexcluded id).2 he)
    rw [ofConfig_of_disjoint hdisjoint]
    congr
    · apply (pairwise_ascendingIds _).eq_of_mem_iff hconsistent.included
      intro id
      rw [hincluded]
      apply Tree.mem_issueIds
    · apply (pairwise_ascendingIds _).eq_of_mem_iff hconsistent.excluded
      intro id
      rw [hexcluded]
      apply Tree.mem_issueIds

/-- Reading fails if some id is on both lists, and the error lists all of these in ascending
order. -/
theorem ofConfig_eq_error_iff {e : Error} :
  ofConfig config = .error e
    ↔ ∃ ids, e = .issueConflict ids ∧ ids ≠ [] ∧ ids.Pairwise (· < ·)
      ∧ ∀ id, id ∈ ids ↔ config.ListsIssue "include" id ∧ config.ListsIssue "exclude" id
  := by
  constructor
  · intro h
    have hmeet : ∃ id, config.ListsIssue "include" id ∧ config.ListsIssue "exclude" id := by
      by_contra hnone
      have hok := ofConfig_of_disjoint fun id hi he => hnone ⟨id, hi, he⟩
      cases hok.symm.trans h
    obtain ⟨id, hincluded, hexcluded⟩ := hmeet
    obtain ⟨ids, hconflict, hsorted, hmem⟩ := ofConfig_of_meet hincluded hexcluded
    obtain rfl := Except.error.inj (hconflict.symm.trans h)
    use ids, rfl, List.ne_nil_of_mem ((hmem id).2 ⟨hincluded, hexcluded⟩)
  · rintro ⟨ids, rfl, hne, hsorted, hmem⟩
    obtain ⟨id, hid⟩ := List.exists_mem_of_ne_nil ids hne
    obtain ⟨hincluded, hexcluded⟩ := (hmem id).1 hid
    obtain ⟨others, hconflict, hothers, hmem'⟩ := ofConfig_of_meet hincluded hexcluded
    rw [hconflict, hothers.eq_of_mem_iff hsorted fun id => (hmem' id).trans (hmem id).symm]

/-- Reading the overrides of a configuration answers to the ids that it lists. -/
theorem answers_ofConfig (config : Tree) :
  Answers (ofConfig config) { id | config.ListsIssue "include" id }
    { id | config.ListsIssue "exclude" id }
  := by
  constructor
  case ok =>
    intro hdisjoint
    have hok := ofConfig_of_disjoint hdisjoint
    obtain ⟨hconsistent, hincluded, hexcluded⟩ := ofConfig_eq_ok_iff.1 hok
    exact ⟨_, hok, hconsistent.included, hincluded, hconsistent.excluded, hexcluded⟩
  case conflict =>
    rintro ⟨id, hincluded, hexcluded⟩
    apply ofConfig_of_meet hincluded hexcluded

end

end IssueOverrides

end LayeredConfig
