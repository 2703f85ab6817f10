import LayeredConfig.Proofs.Binary64.Integer
import Mathlib.Algebra.Group.Int.Defs

/-!
# Whole numbers as signed words

A whole number stands at a multiple of one (`whole?_eq_some_iff`), and if it fits a signed word it
is cut to itself (`toInt_toInt64`).  The greatest signed word has more significant bits than a
number has, and is rounded up to the power of two behind it (`position?_ofInt_maxValue`); so the
whole numbers below it in magnitude are those below `2 ^ 63` (`isBelow_maxValue_iff`).
-/

namespace LayeredConfig.Binary64

variable {x y : Binary64} {i : Int}

theorem position?_abs (x : Binary64) :
  x.abs.position? = x.position?.map fun p => (p.natAbs : Int)
  := by
  have hmagnitude : x.abs.magnitude? = x.magnitude? := by cases x <;> rfl
  have hsign : x.abs.isNegative = false := by cases x <;> rfl
  rw [position?, position?, hmagnitude, hsign]
  cases x.magnitude? with
  | none => rfl
  | some m => cases x.isNegative <;> simp

theorem isBelow_iff :
  x.isBelow y = true ↔ ∃ p q, x.position? = some p ∧ y.position? = some q ∧ p < q
  := by
  rw [isBelow, compare?]
  cases hx : x.position? with
  | none => simp
  | some p =>
    cases hy : y.position? with
    | none => simp
    | some q => simp [Int.compare_eq_lt]

/-- A number is whole if it is finite and stands at a multiple of one. -/
theorem whole?_eq_some_iff :
  x.whole? = some i ↔ x.isFinite = true ∧ x.position? = some (i * unitsPerOne)
  := by
  have hunits : (unitsPerOne : Int) ≠ 0 := Int.natCast_ne_zero.2 unitsPerOne_ne_zero
  generalize hu : (unitsPerOne : Int) = units at hunits
  rw [whole?, hu]
  cases x.isFinite with
  | false => simp
  | true =>
    cases x.position? with
    | none => simp
    | some p =>
      simp only [if_true, Option.bind_some, true_and, Option.some.injEq]
      split
      · next hmod =>
        rw [Option.some.injEq]
        constructor
        · rintro rfl
          exact (Int.ediv_mul_cancel (Int.dvd_of_emod_eq_zero hmod)).symm
        · rintro rfl
          apply Int.mul_ediv_cancel _ hunits
      · next hmod =>
        constructor
        · rintro ⟨⟩
        · rintro rfl
          exact absurd (Int.mul_emod_left i units) hmod

theorem isWhole_iff :
  x.isWhole = true ↔ ∃ i : Int, x.isFinite = true ∧ x.position? = some (i * unitsPerOne)
  := by
  rw [isWhole, Option.isSome_iff_exists]
  simp only [whole?_eq_some_iff]

/-- A whole number that fits a signed word is cut to itself. -/
theorem toInt_toInt64 (h : x.position? = some (i * unitsPerOne)) (hlower : -2 ^ 63 ≤ i)
    (hupper : i < 2 ^ 63) :
  x.toInt64.toInt = i
  := by
  have hunits : (unitsPerOne : Int) ≠ 0 := Int.natCast_ne_zero.2 unitsPerOne_ne_zero
  have hword : max Int64.minValue.toInt (min i Int64.maxValue.toInt) = i := by
    rw [Int64.toInt_minValue, Int64.toInt_maxValue]
    omega
  simp only [toInt64, h, Int.mul_tdiv_cancel i hunits, hword]
  apply Int64.toInt_ofInt_of_le hlower hupper

/-- The number nearest to the greatest signed word is the power of two behind it. -/
theorem position?_ofInt_maxValue :
  (ofInt Int64.maxValue.toInt).position? = some ((2 ^ 63 : Int) * unitsPerOne)
  := by
  decide +kernel

/-- A whole number is below the greatest signed word in magnitude if it is below `2 ^ 63`. -/
theorem isBelow_maxValue_iff (h : x.position? = some (i * unitsPerOne)) :
  x.abs.isBelow (ofInt Int64.maxValue.toInt) = true ↔ i.natAbs < 2 ^ 63
  := by
  have hunits : (0 : Int) < unitsPerOne :=
    Int.natCast_pos.2 (Nat.pos_of_ne_zero unitsPerOne_ne_zero)
  rw [isBelow_iff, position?_abs, h, position?_ofInt_maxValue]
  generalize unitsPerOne = units at hunits
  simp only [Option.map_some, Option.some.injEq, exists_and_left, exists_eq_left']
  rw [Int.natAbs_mul, Int.natAbs_natCast, Int.natCast_mul, Int.mul_lt_mul_right hunits]
  omega

end LayeredConfig.Binary64
