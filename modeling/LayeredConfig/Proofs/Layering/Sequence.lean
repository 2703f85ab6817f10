import LayeredConfig.Proofs.Layering.Clash
import LayeredConfig.Proofs.Layering.Order
import LayeredConfig.Proofs.Layering.Place

/-!
# Merged sequences

A merge of two sequences is a rearrangement of the base followed by what the overlay adds to it
(`IsMergedList`): no item is changed, lost or invented.  The list is left as it is unless it starts
with a string or a number; strings are put in their own order, and numbers in that of their exact
places, those at one place in the order in which they stood.
-/

/-- Sorting keeps the order of items of which each may stand before each other one. -/
theorem List.filter_mergeSort {α : Type} {le : α → α → Bool} {p : α → Bool}
    (trans : ∀ a b c, le a b = true → le b c = true → le a c = true)
    (total : ∀ a b, (le a b || le b a) = true)
    (hp : ∀ a b, p a = true → p b = true → le a b = true) (l : List α) :
  (l.mergeSort le).filter p = l.filter p
  := by
  have hpairwise : (l.filter p).Pairwise fun a b => le a b = true := by
    apply List.pairwise_of_forall_mem_list
    intro a ha b hb
    apply hp a b (List.mem_filter.1 ha).2 (List.mem_filter.1 hb).2
  have hsublist : (l.filter p).Sublist ((l.mergeSort le).filter p) := by
    have h := (List.sublist_mergeSort trans total hpairwise List.filter_sublist).filter p
    simpa only [List.filter_filter, Bool.and_self] using h
  have hperm : ((l.mergeSort le).filter p).Perm (l.filter p) := (List.mergeSort_perm l le).filter p
  exact (hsublist.eq_of_length_le (Nat.le_of_eq hperm.length_eq)).symm

namespace LayeredConfig

open Layering

namespace Layering

/-! ### The three kinds of lists -/

variable {items sorted : List Tree}

/-- In a list that can be ordered every item fits the first one. -/
theorem fits_of_inOrder {first : Tree} (h : inOrder items = .ok sorted)
    (hfirst : items.head? = some first) :
  ∀ x ∈ items, first.Fits x
  := by
  intro x hx
  obtain ⟨hother, -⟩ | ⟨_, hhead, hlead, hcomparable, -⟩ := inOrder_eq_ok_iff.1 h
  · apply Tree.fits_of_leadsOrder_eq_false (hother first hfirst)
  · obtain rfl := Option.some.inj (hhead.symm.trans hfirst)
    rw [← Tree.isSome_compareScalars?_iff hlead]
    apply hcomparable x hx

/-- A list that starts with a string holds strings only, and is put in their order. -/
theorem exists_texts_of_inOrder {s : String} {rest : List Tree}
    (h : inOrder (.string s :: rest) = .ok sorted) :
  ∃ texts : List String, sorted = texts.map .string ∧ texts.Pairwise fun a b => a ≤ b
  := by
  have hstrings : ∃ texts : List String, texts.map Tree.string = .string s :: rest := by
    apply exists_map_eq
    intro x hx
    obtain ⟨text, rfl⟩ := fits_of_inOrder h rfl x hx
    use text
  obtain ⟨texts, htexts⟩ := hstrings
  rw [← htexts, sortable_string.inOrder_map] at h
  use texts.mergeSort fun a b => decide (a ≤ b), (Except.ok.inj h).symm
  apply List.pairwise_mergeSort' _ texts

/-- The order of places; a tree without a place counts as zero. -/
def byPlace (x y : Tree) : Bool := decide (x.place?.getD 0 ≤ y.place?.getD 0)

theorem byPlace_trans (x y z : Tree) (hxy : byPlace x y = true) (hyz : byPlace y z = true) :
  byPlace x z = true
  := by
  rw [byPlace, decide_eq_true_iff] at hxy hyz ⊢
  exact Int.le_trans hxy hyz

theorem byPlace_total (x y : Tree) :
  (byPlace x y || byPlace y x) = true
  := by
  rw [byPlace, byPlace, Bool.or_eq_true, decide_eq_true_iff, decide_eq_true_iff]
  exact Int.le_total _ _

/-- Lists of short numbers are sorted by their places. -/
theorem mergeSort_eq_of_place? (hplace : ∀ x ∈ items, x.place?.isSome = true)
    (hshort : ∀ x ∈ items, x.IsShort) :
  items.mergeSort notAfter = items.mergeSort byPlace
  := by
  have hsame : ∀ x ∈ items, ∀ y ∈ items, notAfter x y = byPlace (id x) (id y) := by
    intro x hx y hy
    obtain ⟨p, hp⟩ := Option.isSome_iff_exists.1 (hplace x hx)
    obtain ⟨q, hq⟩ := Option.isSome_iff_exists.1 (hplace y hy)
    rw [Bool.eq_iff_iff, Tree.notAfter_iff_le hp hq (hshort x hx) (hshort y hy), byPlace, id, id, hp,
      hq, decide_eq_true_iff]
    rfl
  have h := List.map_mergeSort hsame
  rwa [List.map_id, List.map_id] at h

/-- A value that fits a number has a place, unless it is `nan`. -/
theorem isSome_place?_of_fits {first x : Tree}
    (hfirst : (∃ i, first = .integer i) ∨ ∃ y, first = .float y) (hx : first.Fits x)
    (hnan : x ≠ .float .nan) :
  x.place?.isSome = true
  := by
  have hkind : (∃ i, x = .integer i) ∨ (∃ y, x = .float y) ∨ ∃ b, x = .bool b := by
    obtain ⟨i, rfl⟩ | ⟨y, rfl⟩ := hfirst
    · exact hx
    · exact hx
  obtain ⟨i, rfl⟩ | ⟨y, rfl⟩ | ⟨b, rfl⟩ := hkind
  · rfl
  · cases y with
    | nan => exact absurd rfl hnan
    | _ => rfl
  · rfl

end Layering

namespace Tree

/-! ### All lists -/

/-- What putting a list in order makes of it. -/
structure Arranged (items sorted : List Tree) : Prop where
  /-- No item is changed, lost or invented. -/
  perm : sorted.Perm items
  /-- A list that is empty or starts with another item than a string or a number stays as it is. -/
  of_other : (∀ x, items.head? = some x →
      (∀ s, x ≠ .string s) ∧ (∀ i, x ≠ .integer i) ∧ ∀ y, x ≠ .float y) →
    sorted = items
  /-- A list that starts with a string holds strings, in ascending order. -/
  of_string : ∀ s, items.head? = some (.string s) →
    ∃ texts : List String, sorted = texts.map .string ∧ texts.Pairwise fun a b => a ≤ b
  /-- A list of short numbers ascends by their places, and keeps the order of those at one
  place. -/
  of_number : ∀ x, items.head? = some x → ((∃ i, x = .integer i) ∨ ∃ y, x = .float y) →
    .float .nan ∉ items → (∀ x ∈ items, x.IsShort) →
    (∀ x ∈ sorted, x.place?.isSome = true)
      ∧ (sorted.Pairwise fun x y => ∀ p q, x.place? = some p → y.place? = some q → p ≤ q)
      ∧ ∀ p, (sorted.filter fun x => decide (x.place? = some p))
        = items.filter fun x => decide (x.place? = some p)

theorem leadsOrder_eq_false {x : Tree}
    (h : (∀ s, x ≠ .string s) ∧ (∀ i, x ≠ .integer i) ∧ ∀ y, x ≠ .float y) :
  x.leadsOrder = false
  := by
  obtain ⟨hs, hi, hy⟩ := h
  cases x with
  | string s => exact absurd rfl (hs s)
  | integer i => exact absurd rfl (hi i)
  | float y => exact absurd rfl (hy y)
  | _ => rfl

theorem arranged_of_inOrder {items sorted : List Tree} (h : inOrder items = .ok sorted) :
  Arranged items sorted
  where
  perm := perm_of_inOrder h
  of_other hother := by
    rw [inOrder_of_head fun x hx => leadsOrder_eq_false (hother x hx)] at h
    apply (Except.ok.inj h).symm
  of_string s hs := by
    obtain ⟨rest, rfl⟩ := List.head?_eq_some_iff.1 hs
    apply exists_texts_of_inOrder h
  of_number first hfirst hkind hnan hshort := by
    have hplace : ∀ x ∈ items, x.place?.isSome = true := by
      intro x hx
      apply isSome_place?_of_fits hkind (fits_of_inOrder h hfirst x hx)
      rintro rfl
      exact hnan hx
    have hsorted : sorted = items.mergeSort byPlace := by
      obtain ⟨hother, -⟩ | ⟨_, -, -, -, hsorted⟩ := inOrder_eq_ok_iff.1 h
      · obtain ⟨i, rfl⟩ | ⟨y, rfl⟩ := hkind
        · cases hother _ hfirst
        · cases hother _ hfirst
      · rw [hsorted, mergeSort_eq_of_place? hplace hshort]
    subst hsorted
    refine ⟨?_, ?_, ?_⟩
    · intro x hx
      apply hplace x (List.mem_mergeSort.1 hx)
    · apply (List.pairwise_mergeSort byPlace_trans byPlace_total _).imp
      intro x y hxy p q hp hq
      simpa [byPlace, hp, hq] using hxy
    · intro p
      apply List.filter_mergeSort byPlace_trans byPlace_total
      intro x y hx hy
      rw [byPlace, of_decide_eq_true hx, of_decide_eq_true hy]
      apply decide_eq_true (Int.le_refl _)

/-- Two sequences that can be merged make a list that holds the items of the base, however often
each is repeated, and the items that the overlay adds to them, arranged by what stands first. -/
theorem mergeOver_sequence_arranged {overlay base : List Tree} {merged : Tree}
    (h : (sequence overlay).mergeOver (.sequence base) = .ok merged) :
  ∃ sorted, merged = .sequence sorted ∧ Arranged (base ++ added overlay base) sorted
    ∧ (∀ x ∈ sorted, x ∈ base ∨ x ∈ overlay) ∧ ∀ x, base.count x ≤ sorted.count x
  := by
  rw [mergeOver, union_eq_append_added] at h
  obtain ⟨sorted, hsorted, rfl⟩ := Except.map_eq_ok_iff.1 h
  have harranged := arranged_of_inOrder hsorted
  use sorted, rfl, harranged
  constructor
  · intro x hx
    rcases List.mem_append.1 (harranged.perm.mem_iff.1 hx) with hbase | hadded
    · exact .inl hbase
    · exact .inr ((added_sublist overlay base).subset hadded)
  · intro x
    rw [harranged.perm.count_eq, List.count_append]
    apply Nat.le_add_right

/-- Numbers of all kinds, some of them like others. -/
def mixedOverlay : List Tree := [.bool true, .bool false, .float (.ofInt 2)]

/-- Numbers out of order, two of them at one place. -/
def mixedBase : List Tree := [.integer 2, .integer 1, .float (.ofInt 1)]

theorem added_mixedOverlay :
  mixedBase ++ added mixedOverlay mixedBase
    = [.integer 2, .integer 1, .float (.ofInt 1), .bool false]
  := by decide +kernel

theorem mergeOver_mixedOverlay :
  (sequence mixedOverlay).mergeOver (.sequence mixedBase)
    = .ok (.sequence [.bool false, .integer 1, .float (.ofInt 1), .integer 2])
  := by
  have hcomparable : ∀ x ∈ [Tree.integer 2, .integer 1, .float (.ofInt 1), .bool false],
      ((Tree.integer 2).compareScalars? x).isSome = true := by decide +kernel
  have hsort : [Tree.integer 2, .integer 1, .float (.ofInt 1), .bool false].mergeSort notAfter
      = [.bool false, .integer 1, .float (.ofInt 1), .integer 2] := by
    have htwo : ∀ x ∈ [Tree.integer 1, .float (.ofInt 1), .bool false],
        notAfter (.integer 2) x = false := by decide +kernel
    have hfalse : ∀ x ∈ [Tree.integer 1, .float (.ofInt 1)], notAfter x (.bool false) = false := by
      decide +kernel
    have hone : notAfter (.integer 1) (.float (.ofInt 1)) = true := by decide +kernel
    simp only [List.forall_mem_cons] at htwo hfalse
    simp [List.mergeSort, htwo, hfalse, hone]
  rw [mergeOver, union_eq_append_added, added_mixedOverlay,
    inOrder_of_comparable rfl rfl hcomparable, hsort, Except.map]

theorem isShort_mixedOverlay :
  ∀ x ∈ mixedBase ++ added mixedOverlay mixedBase, x.IsShort
  := by
  rw [added_mixedOverlay]
  intro x hx i hi
  subst hi
  have hi : i = 2 ∨ i = 1 := by simpa using hx
  rcases hi with rfl | rfl
  · decide
  · decide

/-- Of the overlay only `false` is added; the numbers ascend, and the two ones keep their order. -/
theorem mergeOver_mixedOverlay_arranged :
  ∃ sorted : List Tree,
    (sequence mixedOverlay).mergeOver (.sequence mixedBase) = .ok (.sequence sorted)
    ∧ sorted.Perm [.integer 2, .integer 1, .float (.ofInt 1), .bool false]
    ∧ (sorted.Pairwise fun x y => ∀ p q, x.place? = some p → y.place? = some q → p ≤ q)
    ∧ (sorted.filter fun x => decide (x.place? = some (Binary64.unitsPerOne : Int)))
      = [.integer 1, .float (.ofInt 1)]
    ∧ (∀ x ∈ sorted, x ∈ mixedBase ∨ x ∈ mixedOverlay)
    ∧ ∀ x, mixedBase.count x ≤ sorted.count x
  := by
  have hmerge := mergeOver_mixedOverlay
  obtain ⟨sorted, hsorted, harranged, hmem, hcount⟩ := mergeOver_sequence_arranged hmerge
  rw [hsorted] at hmerge
  have hnan : .float .nan ∉ mixedBase ++ added mixedOverlay mixedBase := by
    rw [added_mixedOverlay]
    decide +kernel
  obtain ⟨-, hpairwise, hfilter⟩ :=
    harranged.of_number (.integer 2) rfl (.inl ⟨2, rfl⟩) hnan isShort_mixedOverlay
  refine ⟨sorted, hmerge, added_mixedOverlay ▸ harranged.perm, hpairwise, ?_, hmem, hcount⟩
  rw [hfilter, added_mixedOverlay]
  decide +kernel

end Tree

end LayeredConfig
