import LayeredConfig.Layering.Union
import LayeredConfig.Proofs.Binary64.Nearest
import LayeredConfig.Proofs.Layering.Likeness
import Mathlib.Data.Int.Order.Basic
import Mathlib.Order.Compare

/-!
# Exact places of numbers

Every integer, float and boolean other than `nan` has an exact place on the line of integers
(`Tree.place?`).  Merging compares numbers as binary64 numbers, and so by the places of these
(`Tree.rank?`), but two integers by themselves.
For integers of absolute value at most `2 ^ 53` both ways give the order of the exact places
(`notAfter_iff_le`).  What is like an integer of absolute value less than `2 ^ 53` is at its place
(`place?_of_alike_integer`).
-/

namespace LayeredConfig.Tree

variable {x y : Tree} {p q : Int}

/-- The exact place of an integer, a float or a boolean on the line of integers, in units; the
infinities stand just beyond all finite numbers, and `nan` has none. -/
def place? : Tree → Option Int
  | .integer i => some (i.toInt * Binary64.unitsPerOne)
  | .float x => x.position?
  | .bool b => some ((if b then 1 else 0) * Binary64.unitsPerOne)
  | _ => none

/-- A tree that is no integer of absolute value above `2 ^ 53`. -/
def IsShort (x : Tree) : Prop :=
  ∀ i, x = .integer i → i.toInt.natAbs ≤ 2 ^ 53

theorem isShort_of_ne_integer (h : ∀ i, x ≠ .integer i) :
  x.IsShort
  := fun i hi => absurd hi (h i)

/-- A short value is at the place of the number that it stands for. -/
theorem place?_eq_position? {a : Binary64} (ha : x.number? = some a) (hx : x.IsShort) :
  x.place? = a.position?
  := by
  cases x with
  | integer i =>
    obtain rfl := Option.some.inj ha
    exact (Binary64.position?_ofInt (hx i rfl)).symm
  | float y =>
    cases ha
    rfl
  | bool b =>
    obtain rfl := Option.some.inj ha
    apply (Binary64.position?_ofInt ?_).symm
    cases b <;> decide
  | _ => cases ha

/-! ### Comparing two values -/

/-- Two values that are neither both strings nor both integers are compared as binary64 numbers. -/
theorem compareScalars?_of_other (hs : ∀ s t, x = .string s → y ≠ .string t)
    (hi : ∀ i j, x = .integer i → y ≠ .integer j) :
  x.compareScalars? y
    = x.number?.bind fun a => y.number?.map fun b => (a.compare? b).getD .eq
  := by
  rw [compareScalars?]
  · cases x.number? <;> cases y.number? <;> rfl
  · apply hs
  · apply hi

/-- Two numbers that are not both integers are compared as binary64 numbers. -/
theorem compareScalars?_of_number? {a b : Binary64} (ha : x.number? = some a)
    (hb : y.number? = some b) (h : ∀ i j, x = .integer i → y ≠ .integer j) :
  x.compareScalars? y = some ((a.compare? b).getD .eq)
  := by
  have hs : ∀ s t, x = .string s → y ≠ .string t := by
    rintro s t rfl
    cases ha
  rw [compareScalars?_of_other hs h, ha, hb]
  rfl

theorem notAfter_iff :
  Layering.notAfter x y = true ↔ x.compareScalars? y ≠ some .gt
  := by
  rw [Layering.notAfter, bne_iff_ne]
  cases x.compareScalars? y <;> simp

theorem notAfter_integer_iff {i j : Int64} :
  Layering.notAfter (.integer i) (.integer j) = true ↔ i.toInt ≤ j.toInt
  := by
  change (compare i.toInt j.toInt != .gt) = true ↔ _
  rw [bne_iff_ne, ne_eq, compare_gt_iff_gt, not_lt]

/-- The place of the binary64 number that a value stands for. -/
def rank? (x : Tree) : Option Int :=
  x.number?.bind Binary64.position?

theorem rank?_integer (i : Int64) :
  (integer i).rank? = (Binary64.ofInt i.toInt).position?
  := by rw [rank?, number?, Option.bind_some]

/-- The rank of a short value is its exact place. -/
theorem rank?_of_place? (h : x.place? = some p) (hx : x.IsShort) :
  x.rank? = some p
  := by
  have hnumber : ∃ a, x.number? = some a := by
    cases x with
    | integer i => exact ⟨_, rfl⟩
    | float y => exact ⟨_, rfl⟩
    | bool b => exact ⟨_, rfl⟩
    | _ => cases h
  obtain ⟨a, ha⟩ := hnumber
  rw [rank?, ha, Option.bind_some, ← place?_eq_position? ha hx, h]

/-- Two values that are not both integers are put in the order of their ranks. -/
theorem notAfter_iff_rank_le (hx : x.rank? = some p) (hy : y.rank? = some q)
    (hi : ∀ i j, x = .integer i → y ≠ .integer j) :
  Layering.notAfter x y = true ↔ p ≤ q
  := by
  obtain ⟨a, ha, hp⟩ := Option.bind_eq_some_iff.1 hx
  obtain ⟨b, hb, hq⟩ := Option.bind_eq_some_iff.1 hy
  rw [notAfter_iff, compareScalars?_of_number? ha hb hi, Binary64.compare?, hp, hq]
  simp [compare_gt_iff_gt]

/-- Short numbers are put in the order of their places. -/
theorem notAfter_iff_le (hx : x.place? = some p) (hy : y.place? = some q) (hsx : x.IsShort)
    (hsy : y.IsShort) :
  Layering.notAfter x y = true ↔ p ≤ q
  := by
  by_cases h : ∃ i j, x = .integer i ∧ y = .integer j
  · obtain ⟨i, j, rfl, rfl⟩ := h
    cases hx
    cases hy
    have hunits : (0 : Int) < Binary64.unitsPerOne :=
      Int.natCast_pos.2 (Nat.pos_of_ne_zero Binary64.unitsPerOne_ne_zero)
    rw [notAfter_integer_iff, Int.mul_le_mul_iff_of_pos_right hunits]
  · apply notAfter_iff_rank_le (rank?_of_place? hx hsx) (rank?_of_place? hy hsy)
    intro i j hi hj
    exact h ⟨i, j, hi, hj⟩

/-! ### Likeness -/

theorem natAbs_toInt_lt (i : Int64) :
  i.toInt.natAbs < 2 ^ 64
  := by
  have hlower := i.le_toInt
  have hupper := i.toInt_lt
  omega

/-- What is like an integer of absolute value less than `2 ^ 53` is at its place. -/
theorem place?_of_alike_integer {i : Int64} (hi : i.toInt.natAbs < 2 ^ 53)
    (h : x.alike (.integer i) = true) :
  x.place? = some (i.toInt * Binary64.unitsPerOne)
  := by
  rw [alike_of_isScalar_right rfl] at h
  obtain ⟨rfl, hnone⟩ | ⟨a, b, ha, hb, hsame⟩ := alikeScalars_iff.1 h
  · cases hnone
  · obtain rfl := Option.some.inj hb
    by_cases hx : ∃ j, x = .integer j
    · obtain ⟨j, rfl⟩ := hx
      obtain rfl := Option.some.inj ha
      rw [Binary64.same_comm] at hsame
      rw [Binary64.eq_of_same_ofInt hi (natAbs_toInt_lt j) hsame]
      rfl
    · obtain ⟨p, hp, hq⟩ := Binary64.same_iff.1 hsame
      rw [place?_eq_position? ha (isShort_of_ne_integer fun j hj => hx ⟨j, hj⟩), hp, ← hq,
        Binary64.position?_ofInt (Nat.le_of_lt hi)]

end LayeredConfig.Tree
