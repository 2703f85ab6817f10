import LayeredConfig.Layering.Union
import LayeredConfig.Proofs.Binary64.Integer
import LayeredConfig.Proofs.Layering.Likeness
import Mathlib.Data.List.Sort
import Mathlib.Data.Set.List
import Mathlib.Data.String.Basic

/-!
# Sorting merged lists

A list none of whose items leads an order stays as it is, and so does one that holds a mapping,
if it can be sorted at all.  The strings are `Sortable`, and so are the integers of absolute value
at most `2 ^ 53`: a list of them can be sorted, and the result depends only on which items it has,
not on where they stand (`Sortable.inOrder_eq_of_perm`).
-/

namespace LayeredConfig.Layering

/-! ### Lists that stay as they are -/

theorem inOrder_of_leadsOrder_eq_false {items : List Tree}
    (h : ∀ x ∈ items, x.leadsOrder = false) :
  inOrder items = .ok items
  := inOrder_of_head fun _ hx => h _ (List.mem_of_mem_head? hx)

theorem compareScalars?_mapping (x : Tree) (entries : Entries Tree) :
  x.compareScalars? (.mapping entries) = none
  := by
  cases x <;> rfl

/-- A list that holds a mapping stays as it is, if it can be sorted at all. -/
theorem eq_of_inOrder_of_mapping_mem {items sorted : List Tree} {entries : Entries Tree}
    (h : inOrder items = .ok sorted) (hm : Tree.mapping entries ∈ items) :
  sorted = items
  := by
  obtain ⟨-, rfl⟩ | ⟨first, -, -, hcomparable, -⟩ := inOrder_eq_ok_iff.1 h
  · rfl
  · have hmapping := hcomparable _ hm
    rw [compareScalars?_mapping] at hmapping
    cases hmapping

/-! ### Lists that are sorted -/

theorem exists_map_eq {α : Type} {embed : α → Tree} {items : List Tree}
    (hi : ∀ x ∈ items, x ∈ Set.range embed) :
  ∃ as : List α, as.map embed = items
  := by
  have hrange : items ∈ Set.range (List.map embed) := by
    rw [Set.range_list_map]
    exact hi
  exact hrange

/-- The values of a linear order stand for trees that merged lists are sorted by. -/
structure Sortable {α : Type} [LinearOrder α] (embed : α → Tree) : Prop where
  leadsOrder : ∀ a, (embed a).leadsOrder = true
  comparable : ∀ a b, ((embed a).compareScalars? (embed b)).isSome = true
  notAfter_iff : ∀ a b, notAfter (embed a) (embed b) = true ↔ a ≤ b
  eq_of_alike : ∀ a b, (embed a).alike (embed b) = true → a = b

namespace Sortable

variable {α : Type} [LinearOrder α] {embed : α → Tree}

theorem inOrder_map (h : Sortable embed) (as : List α) :
  inOrder (as.map embed) = .ok ((as.mergeSort fun a b => decide (a ≤ b)).map embed)
  := by
  cases as with
  | nil => simp [inOrder]
  | cons a as =>
    have hcomparable : ∀ x ∈ (a :: as).map embed, ((embed a).compareScalars? x).isSome = true := by
      intro x hx
      obtain ⟨b, -, rfl⟩ := List.mem_map.1 hx
      apply h.comparable a b
    have hsort : ((a :: as).mergeSort fun a b => decide (a ≤ b)).map embed
        = ((a :: as).map embed).mergeSort notAfter := by
      apply List.map_mergeSort
      intro a _ b _
      rw [Bool.eq_iff_iff, decide_eq_true_iff, h.notAfter_iff]
    rw [inOrder_of_comparable rfl (h.leadsOrder a) hcomparable, hsort]

theorem exists_inOrder (h : Sortable embed) {items : List Tree}
    (hi : ∀ x ∈ items, x ∈ Set.range embed) :
  ∃ sorted, inOrder items = .ok sorted
  := by
  obtain ⟨as, rfl⟩ := exists_map_eq hi
  exact ⟨_, h.inOrder_map as⟩

theorem injective (h : Sortable embed) :
  Function.Injective embed
  := by
  intro a b hab
  apply le_antisymm
  · rw [← h.notAfter_iff, hab, h.notAfter_iff]
  · rw [← h.notAfter_iff, ← hab, h.notAfter_iff]

/-- The result of sorting does not depend on where the items stand. -/
theorem inOrder_eq_of_perm (h : Sortable embed) {items items' : List Tree}
    (hi : ∀ x ∈ items, x ∈ Set.range embed) (hp : items.Perm items') :
  inOrder items = inOrder items'
  := by
  obtain ⟨as, rfl⟩ := exists_map_eq hi
  obtain ⟨bs, rfl⟩ := exists_map_eq fun x hx => hi x (hp.mem_iff.2 hx)
  have hab : as.Perm bs := (List.map_perm_map_iff h.injective).1 hp
  have hsorted : (as.mergeSort fun a b => decide (a ≤ b)) = bs.mergeSort fun a b => decide (a ≤ b) := by
    apply List.Perm.eq_of_pairwise' (r := (· ≤ ·))
    · apply List.pairwise_mergeSort' _ as
    · apply List.pairwise_mergeSort' _ bs
    · exact (List.mergeSort_perm _ _).trans (hab.trans (List.mergeSort_perm _ _).symm)
  rw [h.inOrder_map, h.inOrder_map, hsorted]

end Sortable

theorem sortable_string :
  Sortable Tree.string
  where
  leadsOrder _ := rfl
  comparable _ _ := rfl
  notAfter_iff a b := by
    change (compare a b != .gt) = true ↔ a ≤ b
    rw [bne_iff_ne, ne_eq, compare_gt_iff_gt, not_lt]
  eq_of_alike a b h := Tree.string.inj (Tree.eq_of_alike_string h)

/-- The integers of absolute value at most `2 ^ 53`. -/
abbrev ShortInteger := { i : Int // i.natAbs ≤ 2 ^ 53 }

theorem ShortInteger.toInt_ofInt (i : ShortInteger) :
  (Int64.ofInt i.val).toInt = i.val
  := by
  have hi := i.property
  apply Int64.toInt_ofInt_of_le <;> omega

theorem sortable_integer :
  Sortable fun i : ShortInteger => Tree.integer (.ofInt i.val)
  where
  leadsOrder _ := rfl
  comparable _ _ := rfl
  notAfter_iff i j := by
    change (compare (Int64.ofInt i.val).toInt (Int64.ofInt j.val).toInt != .gt) = true ↔ i ≤ j
    rw [i.toInt_ofInt, j.toInt_ofInt, bne_iff_ne, ne_eq, compare_gt_iff_gt, not_lt]
    rfl
  eq_of_alike i j h := by
    change (Binary64.ofInt (Int64.ofInt i.val).toInt).same
      (Binary64.ofInt (Int64.ofInt j.val).toInt) = true at h
    rw [i.toInt_ofInt, j.toInt_ofInt, Binary64.same_ofInt_iff i.property j.property] at h
    apply Subtype.ext h

end LayeredConfig.Layering
