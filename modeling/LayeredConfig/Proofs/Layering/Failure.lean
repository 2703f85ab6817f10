import LayeredConfig.Layering.Merge
import LayeredConfig.Proofs.Pass

/-!
# Failures of merging

Merging fails only where a merged sequence cannot be ordered (`isUnorderable_of_mergeOver`).
Layers laid over a tree one after the other fail with the first of them that cannot be laid
over those below it (`mergeLayers_eq_error_iff`); the layers above it play no part.
-/

namespace LayeredConfig

/-! ### Kinds of errors -/

/-- Whether an error is that of a merged sequence that cannot be ordered. -/
def Error.IsUnorderable : Error → Prop
  | .unorderable _ _ => True
  | _ => False

/-- Whether an error is that of a chain of bases that comes back to a name. -/
def Error.IsCycle : Error → Prop
  | .cycle _ _ _ => True
  | _ => False

theorem Error.IsUnorderable.not_isCycle {e : Error} (h : e.IsUnorderable) :
  ¬ e.IsCycle
  := by
  cases e with
  | unorderable => nofun
  | _ => cases h

theorem Layering.isUnorderable_of_inOrder {items : List Tree} {e : Error}
    (h : Layering.inOrder items = .error e) :
  e.IsUnorderable
  := by
  obtain ⟨first, offending, -, -, -, rfl⟩ := inOrder_eq_error_iff.1 h
  trivial

namespace Tree

/-! ### One layer -/

/-- Merging entries fails only where the value of one of them cannot be merged. -/
theorem exists_of_mergeEntries_eq_error {overlay : List (String × Tree)} {base : Entries Tree}
    {e : Error} (h : mergeEntries overlay base = .error e) :
  ∃ entry ∈ overlay, ∃ existing, entry.2.mergeOver existing = .error e
  := by
  induction overlay generalizing base with
  | nil => cases h
  | cons entry rest ih =>
    obtain ⟨raw, value⟩ := entry
    have hrest : ∀ {merged : Entries Tree}, mergeEntries rest merged = .error e →
        ∃ entry ∈ (raw, value) :: rest, ∃ existing, entry.2.mergeOver existing = .error e := by
      intro merged hm
      obtain ⟨entry, he, hex⟩ := ih hm
      use entry, List.mem_cons_of_mem _ he
    rw [mergeEntries] at h
    split at h
    · apply hrest h
    · split at h
      · apply hrest h
      · apply hrest h
    · split at h
      · apply hrest h
      · next existing _ =>
        split at h
        · next hv =>
          cases h
          use (raw, value), List.mem_cons_self, existing
        · apply hrest h

/-- Merging fails only where a merged sequence cannot be ordered. -/
theorem isUnorderable_of_mergeOver {top base : Tree} {e : Error}
    (h : top.mergeOver base = .error e) :
  e.IsUnorderable
  := by
  induction top using Tree.induction generalizing base with
  | sequence overlay =>
    cases base with
    | sequence items =>
      rw [mergeOver, Except.map_eq_error_iff] at h
      apply Layering.isUnorderable_of_inOrder h
    | _ => simp [mergeOver] at h
  | mapping overlay ih =>
    cases base with
    | mapping entries =>
      rw [mergeOver, Except.map_eq_error_iff] at h
      obtain ⟨entry, he, existing, hex⟩ := exists_of_mergeEntries_eq_error h
      apply ih entry he hex
    | _ => simp [mergeOver] at h
  | _ => simp [mergeOver] at h

/-! ### Several layers -/

/-- The first layer that cannot be laid over the tree and the layers below it fails with an
error. -/
def FirstFailure (layers : List Tree) (base : Tree) (e : Error) : Prop :=
  ∃ lower layer upper merged, layers = lower ++ layer :: upper
    ∧ mergeLayers lower base = .ok merged ∧ layer.mergeOver merged = .error e

theorem mergeLayers_append (lower upper : List Tree) (base : Tree) :
  mergeLayers (lower ++ upper) base = (mergeLayers lower base).bind (mergeLayers upper)
  := List.foldlM_append

/-- Laying several layers over a tree fails with the error of the first layer that fails. -/
theorem mergeLayers_eq_error_iff {layers : List Tree} {base : Tree} {e : Error} :
  mergeLayers layers base = .error e ↔ FirstFailure layers base e
  := List.foldlM_eq_error_iff

/-- Laying several layers over a tree fails only where a merged sequence cannot be ordered. -/
theorem isUnorderable_of_mergeLayers {layers : List Tree} {base : Tree} {e : Error}
    (h : mergeLayers layers base = .error e) :
  e.IsUnorderable
  := by
  obtain ⟨_, _, _, _, -, -, hf⟩ := mergeLayers_eq_error_iff.1 h
  apply isUnorderable_of_mergeOver hf

end Tree

end LayeredConfig
