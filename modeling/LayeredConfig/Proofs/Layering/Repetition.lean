import LayeredConfig.Proofs.Layering.Composition
import LayeredConfig.Proofs.Layering.Congruence
import LayeredConfig.Proofs.Layering.Path

/-!
# Layers laid twice

A tree without `nan` is like itself, and so a list adds nothing to a list that it has been united
with.  Sorting such a list again changes nothing either, if its integers are short.  A layer is settled
if it has no marked keys, and merging changes none of its lists over themselves; laid once more over
what it has been laid over, it changes nothing (`mergeOver_again`).
-/

namespace LayeredConfig.Tree

open Layering

variable {t child top base merged : Tree}

/-! ### Exact trees -/

/-- No part of a tree is `nan`, or an integer of absolute value above `2 ^ 53`. -/
def Exact (t : Tree) : Prop :=
  ∀ part : Tree, part.IsPart t → part ≠ .float .nan ∧ part.IsShort

theorem exact_of_isScalar (h : t.isScalar = true) (hnan : t ≠ .float .nan) (hshort : t.IsShort) :
  t.Exact
  := (forall_isPart_iff_of_isScalar h).2 ⟨hnan, hshort⟩

theorem exact_sequence_iff {items : List Tree} :
  (sequence items).Exact ↔ ∀ x ∈ items, x.Exact
  := forall_isPart_sequence_iff ⟨nofun, isShort_of_ne_integer nofun⟩

theorem exact_mapping_iff {entries : Entries Tree} :
  (mapping entries).Exact ↔ ∀ e ∈ entries, e.2.Exact
  := forall_isPart_mapping_iff ⟨nofun, isShort_of_ne_integer nofun⟩

theorem Exact.nanFree (h : t.Exact) :
  t.NanFree
  := fun part hpart => (h part hpart).1

/-! ### Lists -/

/-- A list that has been united with another one adds nothing to the result, and this stays in
order. -/
theorem mergeOver_sequence_again {overlay below sorted : List Tree} (ho : (sequence overlay).Ordered)
    (htop : (sequence overlay).Exact) (hbase : (sequence below).Exact)
    (h : inOrder (union overlay below) = .ok sorted) :
  (sequence overlay).mergeOver (.sequence sorted) = .ok (.sequence sorted)
  := by
  have hperm := perm_of_inOrder h
  have hunion : union overlay sorted = sorted := by
    apply union_of_forall_hasLike
    intro item hitem
    have hself : item.alike item = true := by
      apply (alike_self_iff (ordered_sequence_iff.1 ho item hitem)).2
      apply (exact_sequence_iff.1 htop item hitem).nanFree
    obtain ⟨existing, hm, hlike⟩ := covers_union overlay below item ⟨item, hitem, hself⟩
    exact ⟨existing, hperm.mem_iff.2 hm, hlike⟩
  have hexact : ∀ x ∈ union overlay below, x.Exact :=
    forall_mem_union (exact_sequence_iff.1 htop) (exact_sequence_iff.1 hbase)
  have hdiscerned : Discerned (union overlay below) := by
    apply discerned_of_isShort
    · intro hnan
      exact (hexact _ hnan _ .refl).1 rfl
    · intro x hx
      exact (hexact x hx x .refl).2
  apply mergeOver_sequence
  rw [hunion, inOrder_inOrder hdiscerned h]

/-! ### Mappings -/

/-- An overlay without marked keys changes nothing if each of its values changes nothing of what
there is under its key. -/
theorem mergeEntries_again {overlay entries : Entries Tree} (ho : overlay.Ascending)
    (hu : Unmarked overlay) (he : entries.Ascending)
    (h : ∀ name value, overlay.find? name = some value →
      ∃ existing, entries.find? name = some existing ∧ value.mergeOver existing = .ok existing) :
  mergeEntries overlay entries = .ok entries
  := by
  apply mergeEntries_eq_ok_of_layName ho he he
  intro name
  rw [layName_of_unmarked hu]
  cases hvalue : overlay.find? name with
  | none => rfl
  | some value =>
    obtain ⟨existing, hexisting, hmerge⟩ := h name value hvalue
    rw [hexisting]
    apply layOption_some_some hmerge

/-! ### Settled layers -/

/-- No mapping that merging can come to in a layer has a marked key, and no list that it can come to
is changed by merging it over itself. -/
structure Settled (t : Tree) : Prop where
  mapping : ∀ path (entries : Entries Tree), t.lookup path = some (.mapping entries) →
    Unmarked entries
  sequence : ∀ path items, t.lookup path = some (.sequence items) →
    (Tree.sequence items).mergeOver (.sequence items) = .ok (.sequence items)

theorem Settled.get? {key : String} (h : t.Settled) (hc : t.get? key = some child) :
  child.Settled
  := by
  have hlookup : ∀ path, t.lookup (key :: path) = child.lookup path := by
    intro path
    rw [lookup, hc, Option.bind_some]
  constructor
  · intro path entries hentries
    apply h.mapping (key :: path) entries ((hlookup path).trans hentries)
  · intro path items hitems
    apply h.sequence (key :: path) items ((hlookup path).trans hitems)

theorem settled_of_isScalar (h : t.isScalar = true) :
  t.Settled
  := by
  have hlookup : ∀ path own, t.lookup path = some own → own.isScalar = true := by
    intro path own hown
    cases path with
    | nil =>
      cases hown
      apply h
    | cons key path =>
      obtain ⟨child, hchild, -⟩ := Option.bind_eq_some_iff.1 hown
      obtain ⟨entries, rfl⟩ := exists_mapping_of_get? hchild
      cases h
  constructor
  · intro path entries hentries
    cases hlookup path _ hentries
  · intro path items hitems
    cases hlookup path _ hitems

theorem settled_sequence {items : List Tree}
    (h : (Tree.sequence items).mergeOver (.sequence items) = .ok (.sequence items)) :
  (Tree.sequence items).Settled
  := by
  constructor
  · intro path entries hentries
    cases path with
    | nil => cases hentries
    | cons key path => cases hentries
  · intro path items' hitems
    cases path with
    | nil =>
      cases hitems
      apply h
    | cons key path => cases hitems

theorem settled_mapping {entries : Entries Tree} (hu : Unmarked entries)
    (h : ∀ e ∈ entries, e.2.Settled) :
  (Tree.mapping entries).Settled
  := by
  constructor
  · intro path own hown
    cases path with
    | nil =>
      cases hown
      apply hu
    | cons key path =>
      obtain ⟨child, hchild, hrest⟩ := Option.bind_eq_some_iff.1 hown
      apply (h _ (Entries.mem_of_find? hchild)).mapping path own hrest
  · intro path items hitems
    cases path with
    | nil => cases hitems
    | cons key path =>
      obtain ⟨child, hchild, hrest⟩ := Option.bind_eq_some_iff.1 hitems
      apply (h _ (Entries.mem_of_find? hchild)).sequence path items hrest

/-- A settled layer is not changed by merging it over itself. -/
theorem Settled.mergeOver_self (h : t.Settled) (ho : t.Ordered) :
  t.mergeOver t = .ok t
  := by
  induction t using Tree.induction with
  | sequence items => exact h.sequence [] items rfl
  | mapping entries ih =>
    have hascending := (ordered_mapping_iff.1 ho).1
    have hself : mergeEntries entries entries = .ok entries := by
      apply mergeEntries_again hascending (h.mapping [] entries rfl) hascending
      intro name value hvalue
      use value, hvalue
      apply ih _ (Entries.mem_of_find? hvalue) (h.get? hvalue) (ho.get? hvalue)
    rw [mergeOver, hself]
    rfl
  | _ => exact mergeOver_of_isScalar rfl _

/-- A settled layer that has been laid over a tree changes nothing when it is laid once more. -/
theorem mergeOver_again (ht : top.Ordered) (hb : base.Ordered) (hte : top.Exact) (hbe : base.Exact)
    (hs : top.Settled) (h : top.mergeOver base = .ok merged) :
  top.mergeOver merged = .ok merged
  := by
  induction top using Tree.induction generalizing base merged with
  | sequence overlay =>
    cases base with
    | sequence below =>
      obtain ⟨sorted, hsorted, rfl⟩ := Except.map_eq_ok_iff.1 h
      apply mergeOver_sequence_again ht hte hbe hsorted
    | _ =>
      cases h
      apply hs.mergeOver_self ht
  | mapping overlay ih =>
    cases base with
    | mapping below =>
      have hascending := (ordered_mapping_iff.1 ht).1
      have hunmarked := hs.mapping [] overlay rfl
      obtain ⟨entries, hentries, rfl⟩ := Except.map_eq_ok_iff.1 h
      have hagain : mergeEntries overlay entries = .ok entries := by
        apply mergeEntries_again hascending hunmarked
          (ascending_of_mergeEntries (ordered_mapping_iff.1 hb).1 hentries)
        intro name value hvalue
        have hmem : (name, value) ∈ overlay := Entries.mem_of_find? hvalue
        have hlay := layName_of_mergeEntries hascending hentries name
        rw [layName_of_unmarked hunmarked, hvalue] at hlay
        cases hbelow : Entries.find? name below with
        | none =>
          rw [hbelow] at hlay
          use value, (Except.ok.inj hlay).symm
          apply (hs.get? hvalue).mergeOver_self (ht.get? hvalue)
        | some existing =>
          rw [hbelow] at hlay
          obtain ⟨combined, hcombined, hfind⟩ := Except.map_eq_ok_iff.1 hlay
          use combined, hfind.symm
          apply ih _ hmem (ht.get? hvalue) (hb.get? hbelow) (exact_mapping_iff.1 hte _ hmem)
            (exact_mapping_iff.1 hbe _ (Entries.mem_of_find? hbelow)) (hs.get? hvalue) hcombined
      rw [mergeOver, hagain]
      rfl
    | _ =>
      cases h
      apply hs.mergeOver_self ht
  | _ =>
    rw [mergeOver_of_isScalar rfl] at h ⊢
    apply h

/-- A layer that adds a number to a list and sets a variable. -/
def numberLayer : Tree :=
  .mapping [("ids", .sequence [.integer 2]), ("vars", .mapping [("minor", .integer 8)])]

/-- A base whose list has a boolean, and which has a marked key. -/
def booleanBase : Tree :=
  .mapping [("ids", .sequence [.integer 3, .bool false]), ("owner!", .null)]

theorem mergeOver_numberLayer :
  numberLayer.mergeOver booleanBase
    = .ok (.mapping [("ids", .sequence [.bool false, .integer 2, .integer 3]), ("owner!", .null),
      ("vars", .mapping [("minor", .integer 8)])])
  := by
  have hids : (sequence [.integer 2]).mergeOver (.sequence [.integer 3, .bool false])
      = .ok (.sequence [.bool false, .integer 2, .integer 3]) := by
    have hunion : union [.integer 2] [.integer 3, .bool false]
        = [.integer 3, .bool false, .integer 2] := by decide +kernel
    have hcomparable : ∀ x ∈ [Tree.integer 3, .bool false, .integer 2],
        ((integer 3).compareScalars? x).isSome = true := by decide +kernel
    have hsort : [Tree.integer 3, .bool false, .integer 2].mergeSort notAfter
        = [.bool false, .integer 2, .integer 3] := by
      have hfacts : notAfter (.integer 3) (.bool false) = false
          ∧ notAfter (.bool false) (.integer 2) = true
          ∧ notAfter (.integer 3) (.integer 2) = false := by decide +kernel
      simp [List.mergeSort, hfacts]
    rw [mergeOver, hunion, inOrder_of_comparable rfl rfl hcomparable, hsort, Except.map]
  have hparse : MergeKey.parse "ids" = ⟨"ids", .plain⟩
      ∧ MergeKey.parse "vars" = ⟨"vars", .plain⟩ := by
    decide
  rw [numberLayer, booleanBase, mergeOver]
  simp only [mergeEntries, hparse, Entries.find?, if_true, hids]
  rfl

theorem exact_numberLayer_booleanBase :
  numberLayer.Exact ∧ booleanBase.Exact
  := by
  have hinteger : ∀ i : Int64, i.toInt.natAbs ≤ 2 ^ 53 → (integer i).Exact := by
    intro i hi
    apply exact_of_isScalar rfl Tree.noConfusion
    intro j hj
    rwa [← integer.inj hj]
  have hbool : (bool false).Exact := exact_of_isScalar rfl nofun (isShort_of_ne_integer nofun)
  have hnull : null.Exact := exact_of_isScalar rfl nofun (isShort_of_ne_integer nofun)
  simp only [numberLayer, booleanBase, exact_mapping_iff, exact_sequence_iff, List.forall_mem_cons]
  simp [hinteger 2 (by decide), hinteger 3 (by decide), hinteger 8 (by decide), hbool, hnull]

theorem settled_numberLayer :
  numberLayer.Settled
  := by
  have hids : (Tree.sequence [.integer 2]).mergeOver (.sequence [.integer 2])
      = .ok (.sequence [.integer 2]) := by
    have hunion : union [.integer 2] [.integer 2] = [Tree.integer 2] := by decide +kernel
    rw [mergeOver, hunion, inOrder_of_comparable rfl rfl (by decide +kernel),
      List.mergeSort_singleton]
    rfl
  have hunmarked : ∀ key ∈ ["ids", "minor", "vars"], MergeKey.isMarked key = false := by decide
  simp only [List.forall_mem_cons] at hunmarked
  apply settled_mapping
  · simp [Unmarked, hunmarked]
  · rw [List.forall_mem_cons, List.forall_mem_singleton]
    constructor
    · apply settled_sequence hids
    · apply settled_mapping
      · simp [Unmarked, hunmarked]
      · rw [List.forall_mem_singleton]
        apply settled_of_isScalar rfl

/-- The first time the list is sorted, and the boolean comes to its front; the second time it is left
as it is. -/
theorem mergeOver_again_numberLayer :
  numberLayer.mergeOver booleanBase
      = .ok (.mapping [("ids", .sequence [.bool false, .integer 2, .integer 3]), ("owner!", .null),
        ("vars", .mapping [("minor", .integer 8)])])
    ∧ numberLayer.mergeOver (.mapping [("ids", .sequence [.bool false, .integer 2, .integer 3]),
        ("owner!", .null), ("vars", .mapping [("minor", .integer 8)])])
      = .ok (.mapping [("ids", .sequence [.bool false, .integer 2, .integer 3]), ("owner!", .null),
        ("vars", .mapping [("minor", .integer 8)])])
  := by
  use mergeOver_numberLayer
  apply mergeOver_again (by decide +kernel) (by decide +kernel) exact_numberLayer_booleanBase.1
    exact_numberLayer_booleanBase.2 settled_numberLayer mergeOver_numberLayer

end LayeredConfig.Tree
