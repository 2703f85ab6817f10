import LayeredConfig.Binary64.Rounding
import Mathlib.Algebra.Group.Nat.Defs
import Mathlib.Tactic.Use

/-!
# Integers as binary64 numbers

A magnitude with at most 53 significant bits is not changed by rounding and is the magnitude of
its number.  Hence an integer of absolute value at most `2 ^ 53` stands at its own place
(`position?_ofInt`), and two such integers are the same number only if they are equal
(`same_ofInt_iff`).
-/

namespace LayeredConfig

/-! ### Magnitudes -/

theorem roundHalfEven_mul_self (q : Nat) {den : Nat} (hden : 0 < den) :
  roundHalfEven (q * den) den = q
  := by
  simp [roundHalfEven, hden]

/-- Rounding a magnitude leaves at most 53 significant bits of it. -/
theorem BinaryFormat.round_eq (m : Nat) :
  binary64.round m 1 = roundHalfEven m (2 ^ (m.log2 - 52)) * 2 ^ (m.log2 - 52)
  := by
  have hshift : max binary64.least ((m / 1).log2 + 1 - binary64.precision) = m.log2 - 52 := by
    simp [binary64]
  rw [round, hshift, Nat.one_mul, Nat.pow_eq]

/-- A magnitude with at most 53 significant bits is not changed by rounding. -/
theorem BinaryFormat.round_of_dvd {m : Nat} (h : 2 ^ (m.log2 - 52) ∣ m) :
  binary64.round m 1 = m
  := by
  obtain ⟨q, hq⟩ := h
  have hround : roundHalfEven m (2 ^ (m.log2 - 52)) = q := by
    calc roundHalfEven m (2 ^ (m.log2 - 52))
        = roundHalfEven (q * 2 ^ (m.log2 - 52)) (2 ^ (m.log2 - 52)) := by
          rw [Nat.mul_comm q, ← hq]
      _ = q := roundHalfEven_mul_self q (Nat.two_pow_pos _)
  rw [round_eq, hround, Nat.mul_comm, ← hq]

/-- Below the limit of the format the nearest number has the rounded magnitude. -/
theorem BinaryFormat.nearest_of_lt {format : BinaryFormat} {num den : Nat} (negative : Bool)
    (h : format.round num den < 2 ^ format.limit) :
  format.nearest negative num den = .ofMagnitude negative (format.round num den)
  := if_neg (Nat.not_le.2 h)

namespace Binary64

theorem isNegative_ofMagnitude (negative : Bool) (m : Nat) :
  (ofMagnitude negative m).isNegative = negative
  := by
  unfold ofMagnitude
  split
  · rfl
  · simp only
    split <;> rfl

/-- A large magnitude with at most 53 significant bits has exactly 53, behind which only zeros
follow. -/
theorem exists_significand {m : Nat} (hm : 2 ^ 52 ≤ m) (h : 2 ^ (m.log2 - 52) ∣ m) :
  ∃ q, m = 2 ^ (m.log2 - 52) * q ∧ 2 ^ 52 ≤ q ∧ q < 2 ^ 53
  := by
  obtain ⟨q, hq⟩ := h
  have hpos : m ≠ 0 := Nat.ne_of_gt (Nat.lt_of_lt_of_le (Nat.two_pow_pos 52) hm)
  use q, hq
  constructor
  · apply Nat.le_of_mul_le_mul_left (c := 2 ^ (m.log2 - 52)) _ (Nat.two_pow_pos _)
    rw [← hq, ← Nat.pow_add, Nat.sub_add_cancel ((Nat.le_log2 hpos).2 hm)]
    apply Nat.log2_self_le hpos
  · have hlog : 52 ≤ m.log2 := (Nat.le_log2 hpos).2 hm
    apply Nat.lt_of_mul_lt_mul_left (a := 2 ^ (m.log2 - 52))
    rw [← hq, ← Nat.pow_add, show m.log2 - 52 + 53 = m.log2 + 1 by omega]
    apply Nat.lt_log2_self

/-- A magnitude with at most 53 significant bits is the magnitude of its number. -/
theorem magnitude?_ofMagnitude (negative : Bool) {m : Nat} (hm : m.log2 < 2098)
    (h : 2 ^ (m.log2 - 52) ∣ m) :
  (ofMagnitude negative m).magnitude? = some m
  := by
  rw [ofMagnitude]
  split
  · next hsmall =>
    have hsignificand : significand 0 (Fin.ofNat (Nat.pow 2 52) m) = m := Nat.mod_eq_of_lt hsmall
    rw [magnitude?, hsignificand]
    apply congrArg some (Nat.mul_one m)
  · next hlarge =>
    obtain ⟨q, hq, hlower, hupper⟩ := exists_significand (Nat.not_lt.1 hlarge) h
    have hdiv : m / 2 ^ (m.log2 - 52) = q := Nat.div_eq_of_eq_mul_right (Nat.two_pow_pos _) hq
    have hsignificand : 2 ^ 52 + q % 2 ^ 52 = q := by omega
    simp only
    rw [dif_pos (show m.log2 - 52 + 1 < 2047 by omega)]
    simp only [magnitude?, significand, spacing, Fin.ofNat, Nat.pow_eq, hdiv, hsignificand]
    rw [if_neg (by simp [Fin.ext_iff]), Nat.add_sub_cancel, Nat.mul_comm, ← hq]

theorem lt_two_pow_of_log2_lt {m k : Nat} (h : m.log2 < k) :
  m < 2 ^ k
  := Nat.lt_of_lt_of_le Nat.lt_log2_self (Nat.pow_le_pow_right Nat.two_pos h)

/-- A magnitude with at most 53 significant bits is not rounded. -/
theorem nearest_of_dvd (negative : Bool) {m : Nat} (hm : m.log2 < 2098)
    (h : 2 ^ (m.log2 - 52) ∣ m) :
  nearest negative m 1 = ofMagnitude negative m
  := by
  have hround : BinaryFormat.binary64.round m 1 = m := BinaryFormat.round_of_dvd h
  have hlimit : BinaryFormat.binary64.round m 1 < 2 ^ BinaryFormat.binary64.limit := by
    rw [hround]
    exact lt_two_pow_of_log2_lt hm
  rw [nearest, BinaryFormat.nearest_of_lt negative hlimit, hround]

/-! ### Integers -/

/-- A number of at most `p + 1` bits, or the next power of two, has at most `p + 1` significant bits
however many zeros follow. -/
theorem dvd_mul_two_pow {n p : Nat} (hn : n ≤ 2 ^ (p + 1)) (k : Nat) :
  2 ^ ((n * 2 ^ k).log2 - p) ∣ n * 2 ^ k
  := by
  rcases Nat.lt_or_eq_of_le hn with hlt | rfl
  · by_cases hzero : n = 0
    · simp [hzero]
    · apply Nat.dvd_mul_left_of_dvd
      apply Nat.pow_dvd_pow
      have hupper : (n * 2 ^ k).log2 < p + 1 + k := by
        apply (Nat.log2_lt (Nat.mul_ne_zero hzero (Nat.ne_of_gt (Nat.two_pow_pos k)))).2
        rw [Nat.pow_add]
        apply Nat.mul_lt_mul_of_pos_right hlt (Nat.two_pow_pos k)
      omega
  · rw [← Nat.pow_add]
    apply Nat.pow_dvd_pow
    rw [Nat.log2_two_pow]
    omega

theorem log2_mul_two_pow_lt {n p : Nat} (hn : n ≤ 2 ^ p) (k : Nat) :
  (n * 2 ^ k).log2 < p + 1 + k
  := by
  by_cases hzero : n * 2 ^ k = 0
  · rw [hzero, Nat.log2_zero]
    omega
  · apply (Nat.log2_lt hzero).2
    rw [Nat.pow_add]
    apply Nat.mul_lt_mul_of_pos_right _ (Nat.two_pow_pos k)
    apply Nat.lt_of_le_of_lt hn (Nat.pow_lt_pow_succ Nat.one_lt_two)

theorem exists_unitsPerOne :
  ∃ k ≤ 1074, unitsPerOne = 2 ^ k
  := by
  unfold unitsPerOne
  generalize 1074 = k
  exact ⟨k, Nat.le_refl k, Nat.pow_eq⟩

theorem unitsPerOne_ne_zero :
  unitsPerOne ≠ 0
  := by
  obtain ⟨k, -, hk⟩ := exists_unitsPerOne
  rw [hk]
  apply Nat.ne_of_gt (Nat.two_pow_pos k)

/-- An integer of absolute value at most `2 ^ 53` keeps its absolute value and its sign. -/
theorem magnitude?_ofInt {i : Int} (hi : i.natAbs ≤ 2 ^ 53) :
  (ofInt i).magnitude? = some (i.natAbs * unitsPerOne)
    ∧ (ofInt i).isNegative = decide (i < 0)
  := by
  obtain ⟨k, hle, hk⟩ := exists_unitsPerOne
  have hdvd := dvd_mul_two_pow hi k
  have hlog : (i.natAbs * 2 ^ k).log2 < 2098 := by
    have := log2_mul_two_pow_lt hi k
    omega
  rw [ofInt, hk, nearest_of_dvd _ hlog hdvd]
  exact ⟨magnitude?_ofMagnitude _ hlog hdvd, isNegative_ofMagnitude _ _⟩

theorem position?_of_magnitude? {x : Binary64} {m : Nat} (h : x.magnitude? = some m) :
  x.position? = some (if x.isNegative then -(m : Int) else m)
  := by
  rw [position?, h]
  rfl

/-- An integer of absolute value at most `2 ^ 53` stands at its own place. -/
theorem position?_ofInt {i : Int} (hi : i.natAbs ≤ 2 ^ 53) :
  (ofInt i).position? = some (i * unitsPerOne)
  := by
  obtain ⟨hm, hs⟩ := magnitude?_ofInt hi
  rw [position?_of_magnitude? hm, hs, Int.natCast_mul]
  generalize unitsPerOne = units
  by_cases hneg : i < 0
  · have habs : (i.natAbs : Int) = -i := Int.ofNat_natAbs_of_nonpos (Int.le_of_lt hneg)
    rw [if_pos (decide_eq_true hneg), habs, Int.neg_mul, Int.neg_neg]
  · have habs : (i.natAbs : Int) = i := Int.natAbs_of_nonneg (Int.not_lt.1 hneg)
    rw [if_neg (by simpa using hneg), habs]

theorem same_ofInt_iff {i j : Int} (hi : i.natAbs ≤ 2 ^ 53) (hj : j.natAbs ≤ 2 ^ 53) :
  (ofInt i).same (ofInt j) = true ↔ i = j
  := by
  have hunits : (unitsPerOne : Int) ≠ 0 := Int.natCast_ne_zero.2 unitsPerOne_ne_zero
  constructor
  · intro h
    obtain ⟨p, hpi, hpj⟩ := same_iff.1 h
    rw [position?_ofInt hi] at hpi
    rw [position?_ofInt hj, ← hpi] at hpj
    exact (Int.eq_of_mul_eq_mul_right hunits (Option.some.inj hpj)).symm
  · rintro rfl
    apply same_iff.2 ⟨_, position?_ofInt hi, position?_ofInt hi⟩

end Binary64

end LayeredConfig
