import LayeredConfig.Proofs.Layering.Clash
import LayeredConfig.Proofs.Layering.Order
import LayeredConfig.Proofs.Layering.Place

/-!
# The order in which lists are sorted

A list is sorted if its first item leads an order and every other item can be compared with it.  Then
any two items can be compared, the two ways of comparing them are the reverse of each other, and each
item is of equal rank with itself.  The comparison is transitive exactly if no item blurs others
(`compareScalars?_lawful_iff`): `nan` is of equal rank with every number, and a float is with every
integer that has it for its binary64 number, although two integers are compared exactly.  So a list
without `nan` and without integers beyond `2 ^ 53` comes out sorted, but another one need not
(`sorting_leaves_integers_out_of_order`).
-/

namespace LayeredConfig

open Layering

theorem Binary64.compare?_comm (a b : Binary64) :
  b.compare? a = (a.compare? b).map Ordering.swap
  := by
  cases ha : a.position? <;> cases hb : b.position? <;> simp only [compare?, ha, hb]
  case some.some p q => exact congrArg some Std.OrientedOrd.eq_swap
  all_goals rfl

namespace Tree

variable {x y z : Tree} {p q r : Int}

/-! ### Two items -/

/-- Comparing two values the other way round reverses the result. -/
theorem compareScalars?_comm (x y : Tree) :
  y.compareScalars? x = (x.compareScalars? y).map Ordering.swap
  := by
  by_cases hs : ∃ s t, x = .string s ∧ y = .string t
  · obtain ⟨s, t, rfl, rfl⟩ := hs
    exact congrArg some Std.OrientedOrd.eq_swap
  · by_cases hi : ∃ i j, x = .integer i ∧ y = .integer j
    · obtain ⟨i, j, rfl, rfl⟩ := hi
      exact congrArg some Std.OrientedOrd.eq_swap
    · rw [compareScalars?_of_other (fun t s hy hx => hs ⟨s, t, hx, hy⟩)
          (fun j i hy hx => hi ⟨i, j, hx, hy⟩),
        compareScalars?_of_other (fun s t hx hy => hs ⟨s, t, hx, hy⟩)
          (fun i j hx hy => hi ⟨i, j, hx, hy⟩)]
      cases x.number? with
      | none => cases y.number? <;> rfl
      | some a =>
        cases y.number? with
        | none => rfl
        | some b =>
          simp only [Option.bind_some, Option.map_some, a.compare?_comm b]
          cases a.compare? b <;> rfl

theorem notAfter_total (x y : Tree) :
  notAfter x y = true ∨ notAfter y x = true
  := by
  rw [notAfter_iff, notAfter_iff, compareScalars?_comm x y]
  cases x.compareScalars? y with
  | none => simp
  | some o => cases o <;> simp

/-- Two comparable values are of equal rank if each of them may stand before the other. -/
theorem compareScalars?_eq_iff (h : (x.compareScalars? y).isSome = true) :
  x.compareScalars? y = some .eq ↔ notAfter x y = true ∧ notAfter y x = true
  := by
  obtain ⟨o, ho⟩ := Option.isSome_iff_exists.1 h
  rw [notAfter_iff, notAfter_iff, compareScalars?_comm x y, ho]
  cases o <;> simp

/-- A value that can be compared with itself is of equal rank with itself. -/
theorem compareScalars?_self (h : (x.compareScalars? x).isSome = true) :
  x.compareScalars? x = some .eq
  := by
  rw [compareScalars?_eq_iff h, and_self]
  apply (or_self_iff).1 (notAfter_total x x)

/-! ### Ranks -/

/-- Ranks are in the order of the values, if not always apart. -/
theorem rank_le_of_notAfter (hx : x.rank? = some p) (hy : y.rank? = some q)
    (h : notAfter x y = true) :
  p ≤ q
  := by
  by_cases hi : ∃ i j, x = .integer i ∧ y = .integer j
  · obtain ⟨i, j, rfl, rfl⟩ := hi
    rw [rank?_integer] at hx hy
    apply Binary64.position?_ofInt_le (natAbs_toInt_lt i) (natAbs_toInt_lt j) hx hy
      (notAfter_integer_iff.1 h)
  · apply (notAfter_iff_rank_le hx hy fun i j hi' hj' => hi ⟨i, j, hi', hj'⟩).1 h

theorem notAfter_of_rank_lt (hx : x.rank? = some p) (hy : y.rank? = some q) (h : p < q) :
  notAfter x y = true
  := by
  rcases notAfter_total x y with hxy | hyx
  · exact hxy
  · exact absurd (rank_le_of_notAfter hy hx hyx) (Int.not_le.2 h)

/-- Three values with ranks are ordered transitively, unless the outer two are different integers and
the middle one, which is no integer, has the rank of both. -/
theorem notAfter_trans_of_rank? (hx : x.rank? = some p) (hy : y.rank? = some q)
    (hz : z.rank? = some r)
    (h : ∀ i k, x = .integer i → z = .integer k → (∀ j, y ≠ .integer j) → p = q → q = r → i = k)
    (hxy : notAfter x y = true) (hyz : notAfter y z = true) :
  notAfter x z = true
  := by
  have hpq := rank_le_of_notAfter hx hy hxy
  have hqr := rank_le_of_notAfter hy hz hyz
  by_cases hi : ∃ i k, x = .integer i ∧ z = .integer k
  · obtain ⟨i, k, rfl, rfl⟩ := hi
    by_cases hj : ∃ j, y = .integer j
    · obtain ⟨j, rfl⟩ := hj
      rw [notAfter_integer_iff] at hxy hyz ⊢
      exact Int.le_trans hxy hyz
    · rcases Int.lt_or_eq_of_le (Int.le_trans hpq hqr) with hlt | heq
      · apply notAfter_of_rank_lt hx hz hlt
      · obtain rfl := h i k rfl rfl (fun j hj' => hj ⟨j, hj'⟩) (by omega) (by omega)
        exact notAfter_integer_iff.2 (Int.le_refl _)
  · rw [notAfter_iff_rank_le hx hz fun i k hi' hk' => hi ⟨i, k, hi', hk'⟩]
    exact Int.le_trans hpq hqr

theorem isSome_rank? {a : Binary64} (ha : x.number? = some a) (hnan : x ≠ .float .nan) :
  x.rank?.isSome = true
  := by
  rw [rank?, ha, Option.bind_some]
  cases x with
  | integer i =>
    rw [← Option.some.inj ha, Binary64.position?_ofInt_of_lt (natAbs_toInt_lt i)]
    rfl
  | float y =>
    rw [← Option.some.inj ha]
    cases y with
    | nan => exact absurd rfl hnan
    | _ => rfl
  | bool b =>
    rw [← Option.some.inj ha, Binary64.position?_ofInt (by cases b <;> decide)]
    rfl
  | _ => cases ha

theorem isSome_compareScalars?_of_number? {a b : Binary64} (ha : x.number? = some a)
    (hb : y.number? = some b) :
  (x.compareScalars? y).isSome = true
  := by
  by_cases hi : ∃ i j, x = .integer i ∧ y = .integer j
  · obtain ⟨i, j, rfl, rfl⟩ := hi
    rfl
  · rw [compareScalars?_of_number? ha hb fun i j hi' hj' => hi ⟨i, j, hi', hj'⟩]
    rfl

/-- Every number is of equal rank with `nan`. -/
theorem compareScalars?_nan {a : Binary64} (ha : x.number? = some a) :
  x.compareScalars? (.float .nan) = some .eq
  := by
  have hnan : a.compare? .nan = none := by
    rw [Binary64.compare?]
    cases a.position? <;> rfl
  rw [compareScalars?_of_number? ha rfl (by simp), hnan]
  rfl

/-- An integer is of equal rank with a float that is its binary64 number. -/
theorem compareScalars?_of_same {f : Binary64} {i : Int64}
    (h : f.same (.ofInt i.toInt) = true) :
  (integer i).compareScalars? (.float f) = some .eq
  := by
  obtain ⟨p, hf, hi⟩ := Binary64.same_iff.1 h
  rw [compareScalars?_of_number? rfl rfl (by simp), Binary64.compare?, hf, hi]
  simp

end Tree

namespace Layering

variable {items : List Tree} {first : Tree}

/-! ### Whole lists -/

/-- A list whose items can be compared with one that leads an order holds strings only, or numbers
only. -/
theorem exists_string_or_exists_number? (hlead : first.leadsOrder = true)
    (h : ∀ x ∈ items, (first.compareScalars? x).isSome = true) :
  (∀ x ∈ items, ∃ s, x = .string s) ∨ ∀ x ∈ items, ∃ a, x.number? = some a
  := by
  have hfits : ∀ x ∈ items, first.Fits x := by
    intro x hx
    rw [← Tree.isSome_compareScalars?_iff hlead]
    apply h x hx
  have hnumber : ∀ x : Tree, ((∃ i, x = .integer i) ∨ (∃ y, x = .float y) ∨ ∃ b, x = .bool b) →
      ∃ a, x.number? = some a := by
    rintro _ (⟨i, rfl⟩ | ⟨y, rfl⟩ | ⟨b, rfl⟩)
    · exact ⟨_, rfl⟩
    · exact ⟨_, rfl⟩
    · exact ⟨_, rfl⟩
  cases first with
  | string s => exact .inl hfits
  | integer i => exact .inr fun x hx => hnumber x (hfits x hx)
  | float y => exact .inr fun x hx => hnumber x (hfits x hx)
  | _ => cases hlead

/-- Then any two of its items can be compared. -/
theorem isSome_compareScalars?_of_mem (hlead : first.leadsOrder = true)
    (h : ∀ x ∈ items, (first.compareScalars? x).isSome = true) {x y : Tree} (hx : x ∈ items)
    (hy : y ∈ items) :
  (x.compareScalars? y).isSome = true
  := by
  rcases exists_string_or_exists_number? hlead h with hstring | hnumber
  · obtain ⟨s, rfl⟩ := hstring x hx
    obtain ⟨t, rfl⟩ := hstring y hy
    rfl
  · obtain ⟨a, ha⟩ := hnumber x hx
    obtain ⟨b, hb⟩ := hnumber y hy
    apply Tree.isSome_compareScalars?_of_number? ha hb

/-- The items of a list are ordered transitively. -/
def OrdersTransitively (items : List Tree) : Prop :=
  ∀ x ∈ items, ∀ y ∈ items, ∀ z ∈ items,
    notAfter x y = true → notAfter y z = true → notAfter x z = true

/-- No item of a list is of equal rank with two items that are not of equal rank with each other. -/
structure Discerned (items : List Tree) : Prop where
  /-- Beside `nan` all items are of equal rank. -/
  of_nan : .float .nan ∈ items → ∀ x ∈ items, ∀ y ∈ items, x.compareScalars? y = some .eq
  /-- No float is the binary64 number of two integers. -/
  of_float : ∀ f i j, .float f ∈ items → .integer i ∈ items → .integer j ∈ items →
    f.same (.ofInt i.toInt) = true → f.same (.ofInt j.toInt) = true → i = j

theorem Discerned.ordersTransitively (hnumber : ∀ x ∈ items, ∃ a, x.number? = some a)
    (h : Discerned items) :
  OrdersTransitively items
  := by
  intro x hx y hy z hz hxy hyz
  by_cases hnan : .float .nan ∈ items
  · have heq := h.of_nan hnan x hx z hz
    apply ((Tree.compareScalars?_eq_iff (by rw [heq]; rfl)).1 heq).1
  · have hrank : ∀ w ∈ items, ∃ p, w.rank? = some p := by
      intro w hw
      obtain ⟨a, ha⟩ := hnumber w hw
      apply Option.isSome_iff_exists.1 (Tree.isSome_rank? ha _)
      rintro rfl
      exact hnan hw
    obtain ⟨p, hp⟩ := hrank x hx
    obtain ⟨q, hq⟩ := hrank y hy
    obtain ⟨r, hr⟩ := hrank z hz
    apply Tree.notAfter_trans_of_rank? hp hq hr _ hxy hyz
    rintro i k rfl rfl hj rfl rfl
    rw [Tree.rank?_integer] at hp hr
    obtain ⟨b, hb⟩ := hnumber y hy
    rw [Tree.rank?, hb, Option.bind_some] at hq
    have hi : b.same (.ofInt i.toInt) = true := Binary64.same_iff.2 ⟨p, hq, hp⟩
    have hk : b.same (.ofInt k.toInt) = true := Binary64.same_iff.2 ⟨p, hq, hr⟩
    cases y with
    | integer j => exact absurd rfl (hj j)
    | float f =>
      cases hb
      apply h.of_float _ i k hy hx hz hi hk
    | bool b =>
      obtain rfl := Option.some.inj hb
      have hsmall : (if b then (1 : Int) else 0).natAbs < 2 ^ 53 := by cases b <;> decide
      apply Int64.toInt_inj.1
      rw [← Binary64.eq_of_same_ofInt hsmall (Tree.natAbs_toInt_lt i) hi,
        ← Binary64.eq_of_same_ofInt hsmall (Tree.natAbs_toInt_lt k) hk]
    | _ => cases hb

theorem OrdersTransitively.discerned (hnumber : ∀ x ∈ items, ∃ a, x.number? = some a)
    (h : OrdersTransitively items) :
  Discerned items
  := by
  have hboth : ∀ x ∈ items, ∀ y ∈ items, ∀ z ∈ items, x.compareScalars? z = some .eq →
      y.compareScalars? z = some .eq → x.compareScalars? y = some .eq := by
    intro x hx y hy z hz hxz hyz
    obtain ⟨a, ha⟩ := hnumber x hx
    obtain ⟨b, hb⟩ := hnumber y hy
    obtain ⟨hxz, hzx⟩ := (Tree.compareScalars?_eq_iff (by rw [hxz]; rfl)).1 hxz
    obtain ⟨hyz, hzy⟩ := (Tree.compareScalars?_eq_iff (by rw [hyz]; rfl)).1 hyz
    apply (Tree.compareScalars?_eq_iff (Tree.isSome_compareScalars?_of_number? ha hb)).2
    exact ⟨h x hx z hz y hy hxz hzy, h y hy z hz x hx hyz hzx⟩
  constructor
  · intro hnan x hx y hy
    obtain ⟨a, ha⟩ := hnumber x hx
    obtain ⟨b, hb⟩ := hnumber y hy
    apply hboth x hx y hy _ hnan (Tree.compareScalars?_nan ha) (Tree.compareScalars?_nan hb)
  · intro f i j hf hi hj hfi hfj
    have heq := hboth _ hi _ hj _ hf (Tree.compareScalars?_of_same hfi)
      (Tree.compareScalars?_of_same hfj)
    apply Int64.toInt_inj.1
    apply compare_eq_iff_eq.1 (Option.some.inj heq)

/-- Strings are ordered transitively, and so are numbers of which none blurs others. -/
theorem ordersTransitively_iff (hlead : first.leadsOrder = true)
    (h : ∀ x ∈ items, (first.compareScalars? x).isSome = true) :
  OrdersTransitively items ↔ Discerned items
  := by
  rcases exists_string_or_exists_number? hlead h with hstring | hnumber
  · have htransitive : OrdersTransitively items := by
      intro x hx y hy z hz hxy hyz
      obtain ⟨s, rfl⟩ := hstring x hx
      obtain ⟨t, rfl⟩ := hstring y hy
      obtain ⟨u, rfl⟩ := hstring z hz
      rw [sortable_string.notAfter_iff] at hxy hyz ⊢
      exact le_trans hxy hyz
    have hdiscerned : Discerned items := by
      constructor
      · intro hnan
        obtain ⟨s, hs⟩ := hstring _ hnan
        cases hs
      · intro f i j hf
        obtain ⟨s, hs⟩ := hstring _ hf
        cases hs
    exact iff_of_true htransitive hdiscerned
  · exact ⟨fun ht => ht.discerned hnumber, fun hd => hd.ordersTransitively hnumber⟩

/-- Short numbers are told apart. -/
theorem discerned_of_isShort (hnan : .float .nan ∉ items) (hshort : ∀ x ∈ items, x.IsShort) :
  Discerned items
  where
  of_nan hmem := absurd hmem hnan
  of_float f i j _ hi hj hfi hfj := by
    rw [Binary64.same_comm] at hfi
    apply Int64.toInt_inj.1
    apply (Binary64.same_ofInt_iff (hshort _ hi i rfl) (hshort _ hj j rfl)).1
    apply Binary64.same_trans hfi hfj

/-- Sorting items that are ordered transitively leaves none of them after one that it should stand
before. -/
theorem OrdersTransitively.pairwise_mergeSort (h : OrdersTransitively items) :
  (items.mergeSort notAfter).Pairwise fun x y => notAfter x y = true
  := by
  -- The law holds on these items only, and so each of them is sorted together with its membership.
  have hsort : (items.attach.mergeSort fun x y => notAfter x.val y.val).map Subtype.val
      = items.mergeSort notAfter := by
    rw [List.map_mergeSort (f := Subtype.val) (s := notAfter) fun _ _ _ _ => rfl,
      List.attach_map_subtype_val]
  rw [← hsort, List.pairwise_map]
  apply List.pairwise_mergeSort
  · intro x y z
    apply h x.val x.property y.val y.property z.val z.property
  · intro x y
    rw [Bool.or_eq_true]
    apply Tree.notAfter_total

/-- A list that came out of sorting is not changed by sorting it again.  It can start with a boolean
now, and is left as it is then. -/
theorem inOrder_inOrder {sorted : List Tree} (hd : Discerned items)
    (h : inOrder items = .ok sorted) :
  inOrder sorted = .ok sorted
  := by
  obtain ⟨hother, rfl⟩ | ⟨first, -, hlead, hcomparable, rfl⟩ := inOrder_eq_ok_iff.1 h
  · exact h
  · have hpairwise := ((ordersTransitively_iff hlead hcomparable).2 hd).pairwise_mergeSort
    rw [inOrder_eq_ok_iff]
    by_cases hother : ∀ x, (items.mergeSort notAfter).head? = some x → x.leadsOrder = false
    · exact .inl ⟨hother, rfl⟩
    · right
      simp only [Classical.not_forall, Bool.not_eq_false] at hother
      obtain ⟨x, hhead, hlead'⟩ := hother
      refine ⟨x, hhead, hlead', ?_, (List.mergeSort_of_pairwise hpairwise).symm⟩
      intro y hy
      apply isSome_compareScalars?_of_mem hlead hcomparable
      · exact List.mem_mergeSort.1 (List.mem_of_mem_head? hhead)
      · exact List.mem_mergeSort.1 hy

/-- In a list that passes the check before sorting, each item is of equal rank with itself, and any
two can be compared, in both ways with reverse results.  They are ordered transitively exactly if
they are told apart, and then the list comes out sorted. -/
theorem compareScalars?_lawful_iff (hhead : items.head? = some first)
    (hlead : first.leadsOrder = true)
    (h : ∀ x ∈ items, (first.compareScalars? x).isSome = true) :
  (∀ x ∈ items, x.compareScalars? x = some .eq)
    ∧ (∀ x ∈ items, ∀ y ∈ items,
      ∃ o, x.compareScalars? y = some o ∧ y.compareScalars? x = some o.swap)
    ∧ (OrdersTransitively items ↔ Discerned items)
    ∧ (Discerned items → ∃ sorted, inOrder items = .ok sorted ∧ sorted.Perm items
      ∧ sorted.Pairwise fun x y => notAfter x y = true)
  := by
  refine ⟨?_, ?_, ordersTransitively_iff hlead h, ?_⟩
  · intro x hx
    apply Tree.compareScalars?_self (isSome_compareScalars?_of_mem hlead h hx hx)
  · intro x hx y hy
    obtain ⟨o, ho⟩ := Option.isSome_iff_exists.1 (isSome_compareScalars?_of_mem hlead h hx hy)
    use o, ho
    rw [Tree.compareScalars?_comm x y, ho]
    rfl
  · intro hdiscerned
    use items.mergeSort notAfter, inOrder_of_comparable hhead hlead h, List.mergeSort_perm _ _
    apply ((ordersTransitively_iff hlead h).2 hdiscerned).pairwise_mergeSort

/-- Integers from `2 ^ 53` on, a boolean and a float that is the number of neither. -/
def distantIntegers : List Tree :=
  [.integer 9007199254740993, .integer 9007199254740992, .bool true, .float (.ofInt 7)]

theorem discerned_distantIntegers :
  Discerned distantIntegers
  := by
  have hfloat : ∀ f, .float f ∈ distantIntegers → f = .ofInt 7 := by simp [distantIntegers]
  have hnan : .float .nan ∉ distantIntegers := by decide +kernel
  have hinteger : ∀ i, .integer i ∈ distantIntegers →
      (Binary64.ofInt 7).same (.ofInt i.toInt) = false := by
    simp only [distantIntegers, List.mem_cons, Tree.integer.injEq, reduceCtorEq,
      List.not_mem_nil, or_false]
    rintro i (rfl | rfl) <;> decide +kernel
  constructor
  · intro hmem
    exact absurd hmem hnan
  · intro f i j hf hi hj hfi
    rw [hfloat f hf, hinteger i hi] at hfi
    cases hfi

/-- The integers are told apart, since there is no float at their place, and so the list is
sorted. -/
theorem compareScalars?_lawful_distantIntegers :
  distantIntegers.head? = some (.integer 9007199254740993)
    ∧ (∀ x ∈ distantIntegers,
      ((Tree.integer 9007199254740993).compareScalars? x).isSome = true)
    ∧ OrdersTransitively distantIntegers
    ∧ ∃ sorted, inOrder distantIntegers = .ok sorted ∧ sorted.Perm distantIntegers
      ∧ sorted.Pairwise fun x y => notAfter x y = true
  := by
  have hcomparable : ∀ x ∈ distantIntegers,
      ((Tree.integer 9007199254740993).compareScalars? x).isSome = true := by decide +kernel
  obtain ⟨-, -, htransitive, hsorted⟩ := compareScalars?_lawful_iff rfl rfl hcomparable
  exact ⟨rfl, hcomparable, htransitive.2 discerned_distantIntegers,
    hsorted discerned_distantIntegers⟩

/-- A float twice, with the two integers that have it for their binary64 number. -/
def blurredIntegers : List Tree :=
  [.float (.ofInt 9007199254740992), .integer 9007199254740993, .float (.ofInt 9007199254740992),
    .integer 9007199254740992]

/-- The list passes the check before sorting, but it is not ordered transitively, and the larger
integer stays before the smaller one. -/
theorem sorting_leaves_integers_out_of_order :
  (∃ first, blurredIntegers.head? = some first ∧ first.leadsOrder = true
      ∧ ∀ x ∈ blurredIntegers, (first.compareScalars? x).isSome = true)
    ∧ ¬ OrdersTransitively blurredIntegers
    ∧ (Tree.sequence []).mergeOver (.sequence blurredIntegers) = .ok (.sequence blurredIntegers)
    ∧ ¬ (blurredIntegers.Pairwise fun x y => notAfter x y = true)
  := by
  have hcomparable : ∀ x ∈ blurredIntegers,
      ((Tree.float (.ofInt 9007199254740992)).compareScalars? x).isSome = true := by
    decide +kernel
  have hsort : blurredIntegers.mergeSort notAfter = blurredIntegers := by
    have hequal : notAfter (.float (.ofInt 9007199254740992)) (.integer 9007199254740993) = true
        ∧ notAfter (.integer 9007199254740993) (.float (.ofInt 9007199254740992)) = true
        ∧ notAfter (.float (.ofInt 9007199254740992)) (.integer 9007199254740992) = true
        ∧ notAfter (.float (.ofInt 9007199254740992)) (.float (.ofInt 9007199254740992)) = true := by
      decide +kernel
    simp [blurredIntegers, List.mergeSort, hequal]
  refine ⟨⟨_, rfl, rfl, hcomparable⟩, ?_, ?_, by decide +kernel⟩
  · intro htransitive
    have hlast := htransitive (.integer 9007199254740993) (by decide +kernel)
      (.float (.ofInt 9007199254740992)) (by decide +kernel) (.integer 9007199254740992)
      (by decide +kernel) (by decide +kernel) (by decide +kernel)
    exact absurd hlast (by decide +kernel)
  · rw [Tree.mergeOver, union, List.foldl_nil, inOrder_of_comparable rfl rfl hcomparable, hsort]
    rfl

end Layering

end LayeredConfig
