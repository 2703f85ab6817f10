import LayeredConfig.Error
import LayeredConfig.Layering.Comparison

/-!
# Union of lists

`union overlay base` is the list `base` followed by the items of `overlay` that are like
none before them.  `inOrder` sorts a list that starts with a string or a number, and fails
when an item cannot be compared with the first one; a list that starts with anything else
stays as it is.

The comparison is not always a total order: `nan` counts as equal to every number, and beside
floats the integers beyond `2 ^ 53` are compared by the floats nearest to them.  For such a list no
order is promised, and a sort may leave the items in any order or give up.  `inOrder` stands for one
of these outcomes there, that of the stable merge sort.  Two things do not depend on the choice:
which items the result has, and with which error a list fails, since this is decided before it is
sorted.
-/

namespace LayeredConfig.Layering

/-- Appends an item unless the list has one like it. -/
def adjoin (merged : List Tree) (item : Tree) : List Tree :=
  if merged.any fun existing => existing.alike item then merged else merged ++ [item]

/-- The items of `base`, then the items of `overlay` that are like none before them. -/
def union (overlay base : List Tree) : List Tree := overlay.foldl adjoin base

/-- The order in which merged lists are sorted. -/
def notAfter (x y : Tree) : Bool := (x.compareScalars? y).getD .eq != .gt

/-- The list in ascending order if its first item is a string or a number, and unchanged
otherwise.  Items of equal rank keep their order.  Where `notAfter` does not order the items
totally the order of the result is not specified, and this is one that it can have. -/
def inOrder : List Tree → Except Error (List Tree)
  | [] => .ok []
  | first :: rest =>
    let items := first :: rest
    if first.leadsOrder then
      match items.find? fun item => (first.compareScalars? item).isNone with
      | some offending => .error (.unorderable first offending)
      | none => .ok (items.mergeSort notAfter)
    else
      .ok items

theorem union_append (xs ys base : List Tree) :
  union (xs ++ ys) base = union ys (union xs base)
  := by
  simp [union]

theorem mem_of_mem_union {overlay base : List Tree} {t : Tree} (h : t ∈ union overlay base) :
  t ∈ base ∨ t ∈ overlay
  := by
  induction overlay generalizing base with
  | nil => exact .inl h
  | cons x overlay ih =>
    rcases ih h with h | h
    · rw [adjoin] at h
      split at h
      · exact .inl h
      · rcases List.mem_append.1 h with h | h
        · exact .inl h
        · exact .inr (List.mem_singleton.1 h ▸ List.mem_cons_self)
    · exact .inr (List.mem_cons_of_mem _ h)

/-! ### Sorting -/

variable {items sorted : List Tree}

/-- A list whose first item leads no order stays as it is. -/
theorem inOrder_of_head (h : ∀ first, items.head? = some first → first.leadsOrder = false) :
  inOrder items = .ok items
  := by
  cases items with
  | nil => rfl
  | cons first rest =>
    simp [inOrder, h first rfl]

theorem find?_isNone_eq_none_iff {first : Tree} :
  items.find? (fun item => (first.compareScalars? item).isNone) = none
    ↔ ∀ x ∈ items, (first.compareScalars? x).isSome = true
  := by
  simp [List.find?_eq_none, Option.isSome_iff_ne_none]

/-- Any other list is sorted, if all its items can be compared with the first one. -/
theorem inOrder_of_comparable {first : Tree} (hhead : items.head? = some first)
    (hlead : first.leadsOrder = true)
    (h : ∀ x ∈ items, (first.compareScalars? x).isSome = true) :
  inOrder items = .ok (items.mergeSort notAfter)
  := by
  obtain ⟨rest, rfl⟩ := List.head?_eq_some_iff.1 hhead
  simp only [inOrder, hlead, if_true, find?_isNone_eq_none_iff.2 h]

/-- Sorting fails at the first item that cannot be compared with one that leads an order. -/
theorem inOrder_eq_error_iff {e : Error} :
  inOrder items = .error e
    ↔ ∃ first offending, items.head? = some first ∧ first.leadsOrder = true
      ∧ items.find? (fun item => (first.compareScalars? item).isNone) = some offending
      ∧ e = .unorderable first offending
  := by
  cases items with
  | nil => simp [inOrder]
  | cons first rest =>
    constructor
    · intro h
      simp only [inOrder] at h
      split at h
      · next hlead =>
        split at h
        · next offending hfind =>
          exact ⟨first, offending, rfl, hlead, hfind, (Except.error.inj h).symm⟩
        · cases h
      · cases h
    · rintro ⟨_, offending, ⟨⟩, hlead, hfind, rfl⟩
      simp only [inOrder, hlead, if_true, hfind]

/-- A list that can be put in order is left as it is or sorted, as its first item says. -/
theorem inOrder_eq_ok_iff :
  inOrder items = .ok sorted
    ↔ ((∀ first, items.head? = some first → first.leadsOrder = false) ∧ sorted = items)
      ∨ ∃ first, items.head? = some first ∧ first.leadsOrder = true
        ∧ (∀ x ∈ items, (first.compareScalars? x).isSome = true)
        ∧ sorted = items.mergeSort notAfter
  := by
  constructor
  · intro h
    by_cases hother : ∀ first, items.head? = some first → first.leadsOrder = false
    · rw [inOrder_of_head hother] at h
      exact .inl ⟨hother, (Except.ok.inj h).symm⟩
    · simp only [Classical.not_forall, Bool.not_eq_false] at hother
      obtain ⟨first, hhead, hlead⟩ := hother
      have hcomparable : ∀ x ∈ items, (first.compareScalars? x).isSome = true := by
        apply find?_isNone_eq_none_iff.1
        cases hfind : items.find? fun item => (first.compareScalars? item).isNone with
        | none => rfl
        | some offending =>
          cases h.symm.trans (inOrder_eq_error_iff.2 ⟨first, offending, hhead, hlead, hfind, rfl⟩)
      rw [inOrder_of_comparable hhead hlead hcomparable] at h
      exact .inr ⟨first, hhead, hlead, hcomparable, (Except.ok.inj h).symm⟩
  · rintro (⟨hother, rfl⟩ | ⟨first, hhead, hlead, hcomparable, rfl⟩)
    · exact inOrder_of_head hother
    · exact inOrder_of_comparable hhead hlead hcomparable

/-- Sorting moves items and changes none. -/
theorem perm_of_inOrder (h : inOrder items = .ok sorted) :
  sorted.Perm items
  := by
  obtain ⟨-, rfl⟩ | ⟨first, -, -, -, rfl⟩ := inOrder_eq_ok_iff.1 h
  · exact .refl _
  · apply List.mergeSort_perm

end LayeredConfig.Layering
