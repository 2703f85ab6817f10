import LayeredConfig.Layering.Union
import LayeredConfig.Proofs.Layering.Likeness

/-!
# Laws of the union of lists

`added overlay base` are the items that an overlay adds to a base, so that
`union overlay base = base ++ added overlay base`.  The union is associative (`union_union`):
uniting an overlay with a base first loses only items that are like something in the base, and
what is like an item of the base is like an item of every list that covers it.  The order of the
base does not matter to what is added, and that of the overlay only to the order of what is
added, if no two of its items are alike without being equal.
-/

namespace LayeredConfig.Layering

variable {xs ys base base' : List Tree}

/-- Some item of a list is like the given one. -/
def HasLike (items : List Tree) (item : Tree) : Prop :=
  ∃ existing ∈ items, existing.alike item = true

/-- The items of an overlay that are like none of those before them. -/
def added : List Tree → List Tree → List Tree
  | [], _ => []
  | item :: overlay, base =>
    if base.any fun existing => existing.alike item then added overlay base
    else item :: added overlay (base ++ [item])

theorem adjoin_of_hasLike {merged : List Tree} {item : Tree} (h : HasLike merged item) :
  adjoin merged item = merged
  := if_pos (List.any_eq_true.2 h)

theorem adjoin_of_not_hasLike {merged : List Tree} {item : Tree} (h : ¬ HasLike merged item) :
  adjoin merged item = merged ++ [item]
  := if_neg (fun hany => h (List.any_eq_true.1 hany))

theorem added_cons_of_hasLike {overlay : List Tree} {item : Tree} (h : HasLike base item) :
  added (item :: overlay) base = added overlay base
  := if_pos (List.any_eq_true.2 h)

theorem added_cons_of_not_hasLike {overlay : List Tree} {item : Tree} (h : ¬ HasLike base item) :
  added (item :: overlay) base = item :: added overlay (base ++ [item])
  := if_neg (fun hany => h (List.any_eq_true.1 hany))

theorem union_cons (item : Tree) (overlay base : List Tree) :
  union (item :: overlay) base = union overlay (adjoin base item)
  := rfl

theorem union_eq_append_added (overlay base : List Tree) :
  union overlay base = base ++ added overlay base
  := by
  induction overlay generalizing base with
  | nil => exact (List.append_nil base).symm
  | cons item overlay ih =>
    rw [union_cons, ih]
    by_cases h : HasLike base item
    · rw [adjoin_of_hasLike h, added_cons_of_hasLike h]
    · rw [adjoin_of_not_hasLike h, added_cons_of_not_hasLike h, List.append_assoc]
      rfl

theorem added_append (xs ys base : List Tree) :
  added (xs ++ ys) base = added xs base ++ added ys (base ++ added xs base)
  := by
  have h : base ++ added (xs ++ ys) base
      = base ++ (added xs base ++ added ys (base ++ added xs base)) := by
    rw [← List.append_assoc, ← union_eq_append_added, ← union_eq_append_added, union_append,
      ← union_eq_append_added]
  apply List.append_cancel_left h

theorem added_sublist (overlay base : List Tree) :
  (added overlay base).Sublist overlay
  := by
  induction overlay generalizing base with
  | nil => exact .slnil
  | cons item overlay ih =>
    by_cases h : HasLike base item
    · rw [added_cons_of_hasLike h]
      exact (ih base).cons item
    · rw [added_cons_of_not_hasLike h]
      exact (ih _).cons_cons item

/-! ### Covering -/

/-- What is like an item of the lower list is like an item of the upper one. -/
def Covers (upper lower : List Tree) : Prop :=
  ∀ item, HasLike lower item → HasLike upper item

theorem Covers.of_subset {upper lower : List Tree} (h : lower ⊆ upper) :
  Covers upper lower
  := fun _ ⟨existing, hm, halike⟩ => ⟨existing, h hm, halike⟩

theorem Covers.trans {upper middle lower : List Tree} (h : Covers upper middle)
    (h' : Covers middle lower) :
  Covers upper lower
  := fun item hl => h item (h' item hl)

theorem Covers.append {upper lower lower' : List Tree} (h : Covers upper lower)
    (h' : Covers upper lower') :
  Covers upper (lower ++ lower')
  := by
  rintro item ⟨existing, hm, halike⟩
  rcases List.mem_append.1 hm with hm | hm
  · apply h item ⟨existing, hm, halike⟩
  · apply h' item ⟨existing, hm, halike⟩

theorem subset_adjoin (merged : List Tree) (item : Tree) :
  merged ⊆ adjoin merged item
  := by
  by_cases h : HasLike merged item
  · rw [adjoin_of_hasLike h]
    exact fun _ hm => hm
  · rw [adjoin_of_not_hasLike h]
    apply List.subset_append_left _ _

theorem covers_adjoin (merged : List Tree) (item : Tree) :
  Covers (adjoin merged item) [item]
  := by
  rintro other ⟨_, hm, hitem⟩
  cases List.mem_singleton.1 hm
  by_cases h : HasLike merged item
  · rw [adjoin_of_hasLike h]
    obtain ⟨existing, hm, halike⟩ := h
    exact ⟨existing, hm, Tree.alike_trans halike hitem⟩
  · rw [adjoin_of_not_hasLike h]
    exact ⟨item, List.mem_append_right _ (List.mem_singleton.2 rfl), hitem⟩

theorem subset_union (overlay base : List Tree) :
  base ⊆ union overlay base
  := by
  rw [union_eq_append_added]
  apply List.subset_append_left _ _

/-- A union covers its overlay. -/
theorem covers_union (overlay base : List Tree) :
  Covers (union overlay base) overlay
  := by
  induction overlay generalizing base with
  | nil => exact Covers.of_subset (List.nil_subset _)
  | cons item overlay ih =>
    rw [union_cons, ← List.singleton_append]
    apply Covers.append _ (ih _)
    apply (Covers.of_subset (subset_union _ _)).trans (covers_adjoin _ _)

/-- An item of the overlay is in the union, or something like it is. -/
theorem exists_mem_union {overlay : List Tree} {item : Tree} (h : item ∈ overlay) (base : List Tree) :
  ∃ existing ∈ union overlay base, existing = item ∨ existing.alike item = true
  := by
  obtain ⟨earlier, later, rfl⟩ := List.append_of_mem h
  rw [union_append, union_cons]
  by_cases hlike : HasLike (union earlier base) item
  · obtain ⟨existing, hm, halike⟩ := hlike
    use existing, subset_union _ _ (subset_adjoin _ _ hm), .inr halike
  · use item, subset_union _ _ ?_, .inl rfl
    rw [adjoin_of_not_hasLike hlike]
    apply List.mem_append_right _ (List.mem_singleton.2 rfl)

/-- An overlay of which every item is like something in the base adds nothing. -/
theorem union_of_forall_hasLike {overlay : List Tree} (h : ∀ item ∈ overlay, HasLike base item) :
  union overlay base = base
  := by
  induction overlay with
  | nil => rfl
  | cons item overlay ih =>
    rw [union_cons, adjoin_of_hasLike (h item List.mem_cons_self)]
    apply ih
    intro later hl
    apply h later (List.mem_cons_of_mem _ hl)

/-! ### Associativity -/

/-- A list that covers a base gets from an overlay what it gets from the items that the overlay
adds to the base. -/
theorem union_added {overlay base merged : List Tree} (h : Covers merged base) :
  union (added overlay base) merged = union overlay merged
  := by
  induction overlay generalizing base merged with
  | nil => rfl
  | cons item overlay ih =>
    rw [union_cons]
    by_cases hb : HasLike base item
    · rw [added_cons_of_hasLike hb, adjoin_of_hasLike (h item hb)]
      apply ih h
    · rw [added_cons_of_not_hasLike hb, union_cons]
      apply ih
      apply Covers.append _ (covers_adjoin _ _)
      apply (Covers.of_subset (subset_adjoin _ _)).trans h

theorem union_union (top middle base : List Tree) :
  union top (union middle base) = union (union top middle) base
  := by
  rw [union_eq_append_added top middle, union_append, union_added (covers_union _ _)]

/-! ### Rearranging -/

theorem added_congr {overlay : List Tree} (h : ∀ x, x ∈ base ↔ x ∈ base') :
  added overlay base = added overlay base'
  := by
  induction overlay generalizing base base' with
  | nil => rfl
  | cons item overlay ih =>
    have hany : HasLike base item ↔ HasLike base' item :=
      exists_congr fun existing => and_congr_left' (h existing)
    by_cases hb : HasLike base item
    · rw [added_cons_of_hasLike hb, added_cons_of_hasLike (hany.1 hb), ih h]
    · rw [added_cons_of_not_hasLike hb, added_cons_of_not_hasLike (fun hb' => hb (hany.2 hb'))]
      congr 1
      apply ih
      simp [h]

/-- The order of the base only matters to the order of the base. -/
theorem union_perm_base (overlay : List Tree) (h : base.Perm base') :
  (union overlay base).Perm (union overlay base')
  := by
  rw [union_eq_append_added, union_eq_append_added, added_congr fun _ => h.mem_iff]
  apply h.append_right _

theorem adjoin_adjoin_of_hasLike {merged : List Tree} {x : Tree} (h : HasLike merged x) (y : Tree) :
  adjoin (adjoin merged y) x = adjoin merged y
  := adjoin_of_hasLike (Covers.of_subset (subset_adjoin merged y) x h)

theorem not_hasLike_append_singleton {merged : List Tree} {x y : Tree}
    (h : ¬ HasLike merged y) (hxy : x.alike y = false) :
  ¬ HasLike (merged ++ [x]) y
  := by
  simpa [HasLike, or_and_right, exists_or, hxy] using h

theorem adjoin_adjoin_perm (merged : List Tree) {x y : Tree} (hxy : x.alike y = true → x = y)
    (hyx : y.alike x = true → y = x) :
  (adjoin (adjoin merged x) y).Perm (adjoin (adjoin merged y) x)
  := by
  by_cases hx : HasLike merged x
  · rw [adjoin_adjoin_of_hasLike hx, adjoin_of_hasLike hx]
  · by_cases hy : HasLike merged y
    · rw [adjoin_adjoin_of_hasLike hy, adjoin_of_hasLike hy]
    · cases hlike : x.alike y with
      | true => rw [hxy hlike]
      | false =>
        cases hlike' : y.alike x with
        | true => rw [hyx hlike']
        | false =>
          rw [adjoin_of_not_hasLike hx, adjoin_of_not_hasLike hy,
            adjoin_of_not_hasLike (not_hasLike_append_singleton hy hlike),
            adjoin_of_not_hasLike (not_hasLike_append_singleton hx hlike'), List.append_assoc,
            List.append_assoc]
          exact (List.Perm.swap y x []).append_left merged

/-- The order of the overlay only matters to the order of what it adds, if no two of its items
are alike without being equal. -/
theorem union_perm_overlay (h : xs.Perm ys)
    (heq : ∀ x ∈ xs, ∀ y ∈ xs, x.alike y = true → x = y) (base : List Tree) :
  (union xs base).Perm (union ys base)
  := by
  induction h generalizing base with
  | nil => exact .refl _
  | cons x h ih =>
    apply ih
    exact fun x hx y hy => heq x (List.mem_cons_of_mem _ hx) y (List.mem_cons_of_mem _ hy)
  | swap x y l =>
    simp only [union_cons]
    apply union_perm_base
    apply adjoin_adjoin_perm
    · apply heq <;> simp
    · apply heq <;> simp
  | trans hxy hyz ihxy ihyz =>
    apply (ihxy heq base).trans
    apply ihyz
    intro x hx y hy
    apply heq x (hxy.mem_iff.2 hx) y (hxy.mem_iff.2 hy)

end LayeredConfig.Layering
