import LayeredConfig.Proofs.Issues.Overrides
import LayeredConfig.Proofs.Text.Decimal

/-!
# Extraction of issue ids

A value spells an id if it is an integer that is not negative, or a run of decimal digits, and the
number fits a word (`Tree.SpellsId`).  The ids of a list are those that its mappings spell
(`Tree.StatesIssue`).  Overrides are read exactly if the two sets of ids do not meet, and otherwise
the conflict lists what they share (`IssueOverrides.ofConfig_exact`).
-/

namespace LayeredConfig

namespace Tree

variable {config entry value : Tree} {key : String} {id : UInt64}

/-- A value is one of the spellings of an id. -/
inductive SpellsId : Tree → UInt64 → Prop
  | integer {i : Int64} {id : UInt64} (h : i.toInt = id.toNat) : SpellsId (.integer i) id
  | digits {s : String} {id : UInt64} (h : Text.Denotes s.toList id.toNat) :
    SpellsId (.string s) id

/-- A mapping in the list under a key of a configuration spells an id under `id`. -/
def StatesIssue (config : Tree) (key : String) (id : UInt64) : Prop :=
  ∃ items, ∃ entries : Entries Tree, ∃ value, config.get? key = some (.sequence items)
    ∧ .mapping entries ∈ items ∧ entries.find? "id" = some value ∧ value.SpellsId id

theorem word_of_int_eq_some_iff {i : Int64} :
  (if 0 ≤ i.toInt then some (UInt64.ofNat i.toInt.toNat) else none) = some id
    ↔ i.toInt = id.toNat
  := by
  have hsize : i.toInt.toNat < UInt64.size := by
    have := Int64.toInt_lt i
    rw [UInt64.size]
    omega
  split
  · next h =>
    rw [Option.some.injEq, ← UInt64.toNat_inj, UInt64.toNat_ofNat_of_lt' hsize]
    omega
  · next h =>
    constructor
    · rintro ⟨⟩
    · intro hi
      omega

/-- The id that is read from an entry is the one that its `id` spells. -/
theorem issueId?_eq_some_iff :
  entry.issueId? = some id ↔ ∃ value, entry.get? "id" = some value ∧ value.SpellsId id
  := by
  rw [issueId?]
  cases hget : entry.get? "id" with
  | none => simp
  | some value =>
    simp only [Option.some.injEq, exists_eq_left']
    cases value with
    | integer i =>
      simp only
      rw [word_of_int_eq_some_iff]
      constructor
      · apply SpellsId.integer
      · intro h
        cases h with
        | integer h => apply h
    | string s =>
      simp only
      rw [Text.word_of_decimal?_eq_some_iff]
      constructor
      · apply SpellsId.digits
      · intro h
        cases h with
        | digits h => apply h
    | _ =>
      constructor
      · rintro ⟨⟩
      · rintro ⟨⟩

/-- Only a mapping in a sequence can list an issue. -/
theorem listsIssue_iff_statesIssue :
  config.ListsIssue key id ↔ config.StatesIssue key id
  := by
  simp only [ListsIssue, issueId?_eq_some_iff]
  constructor
  · rintro ⟨entry, hentry, value, hvalue, hspells⟩
    cases hget : config.get? key with
    | none =>
      rw [getOrNull, hget] at hentry
      cases hentry
    | some list =>
      rw [getOrNull, hget] at hentry
      cases list with
      | sequence items =>
        obtain ⟨entries, rfl⟩ := exists_mapping_of_get? hvalue
        exact ⟨items, entries, value, hget, hentry, hvalue, hspells⟩
      | _ => cases hentry
  · rintro ⟨items, entries, value, hget, hentry, hvalue, hspells⟩
    refine ⟨.mapping entries, ?_, value, hvalue, hspells⟩
    rw [getOrNull, hget]
    apply hentry

end Tree

/-- The ids of a configuration are the ones that the mappings in its two lists spell.  Reading fails
exactly if some id is both included and excluded, and the conflict then lists these ids in ascending
order; the overrides that are read have the two sets of ids, and share none. -/
theorem IssueOverrides.ofConfig_exact (config : Tree) :
  ((∃ e, ofConfig config = .error e)
      ↔ ∃ id, config.StatesIssue "include" id ∧ config.StatesIssue "exclude" id)
    ∧ (∀ e, ofConfig config = .error e ↔ ∃ ids, e = .issueConflict ids ∧ ids ≠ []
      ∧ ids.Pairwise (· < ·)
      ∧ ∀ id, id ∈ ids ↔ config.StatesIssue "include" id ∧ config.StatesIssue "exclude" id)
    ∧ ∀ overrides, ofConfig config = .ok overrides ↔ overrides.Consistent
      ∧ (∀ id, id ∈ overrides.included ↔ config.StatesIssue "include" id)
      ∧ ∀ id, id ∈ overrides.excluded ↔ config.StatesIssue "exclude" id
  := by
  simp only [← Tree.listsIssue_iff_statesIssue]
  refine ⟨?_, fun _ => ofConfig_eq_error_iff, fun _ => ofConfig_eq_ok_iff⟩
  constructor
  · rintro ⟨e, he⟩
    obtain ⟨ids, -, hne, -, hmem⟩ := ofConfig_eq_error_iff.1 he
    obtain ⟨id, hid⟩ := List.exists_mem_of_ne_nil ids hne
    exact ⟨id, (hmem id).1 hid⟩
  · rintro ⟨id, hincluded, hexcluded⟩
    obtain ⟨ids, hconflict, -⟩ := ofConfig_of_meet hincluded hexcluded
    use .issueConflict ids

/-- Three spellings are one id; a negative integer, a word that is not a number, a number that does
not fit a word and an entry that is no mapping are passed over. -/
example :
    IssueOverrides.ofConfig (.mapping [("exclude", .null), ("include", .sequence
      [.mapping [("id", .integer 7)], .mapping [("id", .string "7")],
        .mapping [("id", .string "007")], .mapping [("id", .integer (-7))],
        .mapping [("id", .string "OCPBUGS-3")],
        .mapping [("id", .string "18446744073709551616")], .integer 7])])
      = .ok ⟨[7], []⟩ := by
  decide +kernel

end LayeredConfig
