import LayeredConfig.Proofs.Binary64.Integer

/-!
# Nearest numbers

A place is preferred to another one if it is closer to the target, or as close and even
(`Prefers`).  Rounding a quotient prefers the result to all other integers
(`prefers_roundHalfEven`), and rounding a magnitude prefers it to the magnitudes of all numbers
(`prefers_round`), since these have at most 53 significant bits.  Hence the number of a natural
number that fits a word is the nearest one (`Binary64.isNearest_ofInt`).
-/

namespace LayeredConfig

/-- Among two places the first is closer to the target, or they are the same, or they are as close
and the first is even. -/
def Prefers (target : Int) (even : Prop) (place other : Int) : Prop :=
  (place - target).natAbs < (other - target).natAbs ∨ place = other
    ∨ (place - target).natAbs = (other - target).natAbs ∧ even

theorem Prefers.imp {target place other : Int} {even even' : Prop}
    (h : Prefers target even place other) (himp : even → even') :
  Prefers target even' place other
  := by
  rcases h with hcloser | rfl | ⟨htie, heven⟩
  · exact .inl hcloser
  · exact .inr (.inl rfl)
  · exact .inr (.inr ⟨htie, himp heven⟩)

theorem Prefers.of_lt {target place other farther : Int} {even : Prop}
    (h : Prefers target even place other)
    (hlt : (other - target).natAbs < (farther - target).natAbs) :
  Prefers target even place farther
  := by
  rcases h with hcloser | rfl | ⟨htie, -⟩
  · exact .inl (Nat.lt_trans hcloser hlt)
  · exact .inl hlt
  · exact .inl (htie ▸ hlt)

/-! ### Rounded quotients -/

theorem roundHalfEven_cases (num den : Nat) :
  2 * (num % den) < den ∧ roundHalfEven num den = num / den
    ∨ den < 2 * (num % den) ∧ roundHalfEven num den = num / den + 1
    ∨ 2 * (num % den) = den ∧ roundHalfEven num den % 2 = 0
      ∧ (roundHalfEven num den = num / den ∨ roundHalfEven num den = num / den + 1)
  := by
  simp only [roundHalfEven]
  split
  · next hlt => exact .inl ⟨hlt, rfl⟩
  · split
    · next hgt => exact .inr (.inl ⟨hgt, rfl⟩)
    · refine .inr (.inr ⟨?_, ?_, ?_⟩)
      · omega
      · omega
      · omega

/-- A multiple lies below the quotient, is one of the two that surround it, or lies above both. -/
theorem mul_cases (num k : Nat) (den : Nat) :
  k * den + den ≤ num / den * den ∨ k = num / den ∨ k = num / den + 1
    ∨ (num / den + 1) * den + den ≤ k * den
  := by
  rcases Nat.lt_trichotomy k (num / den) with hlt | heq | hgt
  · left
    rw [← Nat.succ_mul]
    apply Nat.mul_le_mul_right den hlt
  · exact .inr (.inl heq)
  · rcases Nat.eq_or_lt_of_le hgt with heq | hgt
    · exact .inr (.inr (.inl heq.symm))
    · right; right; right
      rw [← Nat.succ_mul]
      apply Nat.mul_le_mul_right den hgt

/-- A rounded quotient is preferred to every other integer. -/
theorem prefers_roundHalfEven (num k : Nat) {den : Nat} (hden : 0 < den) :
  Prefers num (roundHalfEven num den % 2 = 0) (roundHalfEven num den * den : Nat) (k * den : Nat)
  := by
  have hdiv : num / den * den + num % den = num := Nat.div_add_mod' num den
  have hmod : num % den < den := Nat.mod_lt num hden
  have hnext : (num / den + 1) * den = num / den * den + den := Nat.succ_mul _ _
  have hmul := mul_cases num k den
  have hround := roundHalfEven_cases num den
  rw [Prefers]
  generalize roundHalfEven num den = rounded at hround ⊢
  rcases hround with ⟨hless, rfl⟩ | ⟨hmore, rfl⟩ | ⟨hhalf, heven, rfl | rfl⟩
  all_goals
    rcases hmul with hbelow | rfl | rfl | habove
    all_goals omega

theorem roundHalfEven_le {m : Nat} :
  roundHalfEven m (2 ^ (m.log2 - 52)) ≤ 2 ^ 53
  := by
  have hdiv : m / 2 ^ (m.log2 - 52) < 2 ^ 53 := by
    apply (Nat.div_lt_iff_lt_mul (Nat.two_pow_pos _)).2
    rw [← Nat.pow_add]
    apply Nat.lt_of_lt_of_le Nat.lt_log2_self
    apply Nat.pow_le_pow_right Nat.two_pos
    omega
  apply Nat.le_trans (roundHalfEven_bounds m _).2 hdiv

/-! ### Rounded magnitudes -/

/-- A rounded magnitude is preferred to all others of at most 53 significant bits. -/
theorem prefers_round (m : Nat) {q : Nat} (hq : 2 ^ (q.log2 - 52) ∣ q) :
  Prefers m (roundHalfEven m (2 ^ (m.log2 - 52)) % 2 = 0) (BinaryFormat.binary64.round m 1 : Nat) q
  := by
  have hpos : 0 < 2 ^ (m.log2 - 52) := Nat.two_pow_pos _
  rw [BinaryFormat.round_eq]
  by_cases hdvd : 2 ^ (m.log2 - 52) ∣ q
  · obtain ⟨k, rfl⟩ := hdvd
    rw [Nat.mul_comm _ k]
    apply prefers_roundHalfEven m k hpos
  · -- the leading bit of `m` alone is a multiple that lies between `q` and `m`
    have hsmall : q < 2 ^ m.log2 := by
      apply Nat.lt_of_not_le
      intro hle
      have hlog : m.log2 ≤ q.log2 :=
        (Nat.le_log2 (Nat.ne_of_gt (Nat.lt_of_lt_of_le (Nat.two_pow_pos _) hle))).2 hle
      apply hdvd
      apply Nat.dvd_trans (Nat.pow_dvd_pow 2 (Nat.sub_le_sub_right hlog 52)) hq
    have hm : m ≠ 0 := by
      rintro rfl
      apply hdvd
      rw [Nat.lt_one_iff.1 hsmall]
      apply Nat.dvd_zero
    have hlead : 2 ^ m.log2 ≤ m := Nat.log2_self_le hm
    have hmultiple : 2 ^ (m.log2 - (m.log2 - 52)) * 2 ^ (m.log2 - 52) = 2 ^ m.log2 := by
      rw [← Nat.pow_add, Nat.sub_add_cancel (Nat.sub_le _ _)]
    apply (prefers_roundHalfEven m (2 ^ (m.log2 - (m.log2 - 52))) hpos).of_lt
    rw [hmultiple]
    generalize 2 ^ m.log2 = lead at hsmall hlead
    omega

namespace Binary64

theorem significand_lt (exponent : Fin 2047) (fraction : Fin (Nat.pow 2 52)) :
  significand exponent fraction < 2 ^ 53
  := by
  have hfraction : fraction.val < 2 ^ 52 := fraction.isLt
  simp only [significand, Nat.pow_eq]
  split
  · omega
  · omega

theorem dvd_two_pow (k : Nat) :
  2 ^ ((2 ^ k).log2 - 52) ∣ 2 ^ k
  := by
  rw [Nat.log2_two_pow]
  apply Nat.pow_dvd_pow
  apply Nat.sub_le

/-- The magnitude of a number has at most 53 significant bits. -/
theorem dvd_of_magnitude? {x : Binary64} {q : Nat} (h : x.magnitude? = some q) :
  2 ^ (q.log2 - 52) ∣ q
  := by
  cases x with
  | nan => cases h
  | infinite negative =>
    obtain rfl := Option.some.inj h
    unfold beyond
    generalize 2098 = k
    apply dvd_two_pow k
  | finite negative exponent fraction =>
    cases h
    apply dvd_mul_two_pow (Nat.le_of_lt (significand_lt exponent fraction))

/-! ### Even numbers -/

/-- A finite number whose last bit is zero. -/
def IsEven : Binary64 → Prop
  | .finite _ _ fraction => fraction.val % 2 = 0
  | _ => False

theorem isEven_ofMagnitude (negative : Bool) {m : Nat} (hm : m.log2 < 2098)
    (h : 2 ^ (m.log2 - 52 + 1) ∣ m) :
  (ofMagnitude negative m).IsEven
  := by
  rw [ofMagnitude]
  split
  · have heven : 2 ∣ m := Nat.dvd_trans (Nat.dvd_mul_left 2 _) h
    change m % 2 ^ 52 % 2 = 0
    omega
  · obtain ⟨u, hu⟩ := h
    have hdiv : m / 2 ^ (m.log2 - 52) = 2 * u := by
      apply Nat.div_eq_of_eq_mul_right (Nat.two_pow_pos _)
      rw [← Nat.mul_assoc, ← Nat.pow_succ, ← hu]
    simp only
    rw [dif_pos (show m.log2 - 52 + 1 < 2047 by omega), Nat.pow_eq (n := m.log2 - 52), hdiv]
    change 2 * u % 2 ^ 52 % 2 = 0
    omega

/-- An even significand leaves a zero for the last of the 53 bits. -/
theorem dvd_of_even {t : Nat} (ht : t ≤ 2 ^ 53) (heven : t % 2 = 0) (k : Nat) :
  2 ^ ((t * 2 ^ k).log2 - 52 + 1) ∣ t * 2 ^ k
  := by
  obtain ⟨u, rfl⟩ := Nat.dvd_of_mod_eq_zero heven
  have hmul : 2 * u * 2 ^ k = u * 2 ^ (k + 1) := by
    rw [Nat.pow_succ, Nat.mul_comm 2 u, Nat.mul_assoc, Nat.mul_comm 2]
  rw [hmul]
  have hdvd : 2 ^ ((u * 2 ^ (k + 1)).log2 - 51) ∣ u * 2 ^ (k + 1) :=
    dvd_mul_two_pow (show u ≤ 2 ^ (51 + 1) by omega) (k + 1)
  generalize (u * 2 ^ (k + 1)).log2 = size at hdvd ⊢
  rcases Nat.lt_or_ge size 52 with hlt | hge
  · rw [show size - 52 + 1 = 1 by omega]
    apply Nat.dvd_mul_left_of_dvd
    apply Nat.pow_dvd_pow
    omega
  · rw [show size - 52 + 1 = size - 51 by omega]
    apply hdvd

/-! ### Integers -/

/-- A number stands at a place that is preferred to the places of all numbers. -/
def IsNearest (x : Binary64) (i : Int) : Prop :=
  ∃ p, x.position? = some p ∧ ∀ y q, position? y = some q → Prefers (i * unitsPerOne) x.IsEven p q

theorem magnitude?_of_position? {x : Binary64} {p : Int} (h : x.position? = some p) :
  ∃ m, x.magnitude? = some m ∧ (p = m ∨ p = -(m : Int))
  := by
  cases hm : x.magnitude? with
  | none =>
    rw [position?, hm] at h
    cases h
  | some m =>
    rw [position?_of_magnitude? hm] at h
    refine ⟨m, rfl, ?_⟩
    rw [← Option.some.inj h]
    split
    · exact .inr rfl
    · exact .inl rfl

/-- The number of an integer that fits a word is the number of its rounded magnitude. -/
theorem ofInt_eq_ofMagnitude {i : Int} (hi : i.natAbs < 2 ^ 64) :
  ofInt i = ofMagnitude (decide (i < 0)) (BinaryFormat.binary64.round (i.natAbs * unitsPerOne) 1)
    ∧ (BinaryFormat.binary64.round (i.natAbs * unitsPerOne) 1).log2 < 2098
  := by
  obtain ⟨k, hle, hk⟩ := exists_unitsPerOne
  have hsize : (i.natAbs * 2 ^ k).log2 < 64 + 1 + k := log2_mul_two_pow_lt (Nat.le_of_lt hi) k
  have hlog : (BinaryFormat.binary64.round (i.natAbs * 2 ^ k) 1).log2 < 2098 := by
    rw [BinaryFormat.round_eq]
    have := log2_mul_two_pow_lt (roundHalfEven_le (m := i.natAbs * 2 ^ k))
      ((i.natAbs * 2 ^ k).log2 - 52)
    omega
  rw [hk]
  refine ⟨?_, hlog⟩
  have hlimit : BinaryFormat.binary64.round (i.natAbs * 2 ^ k) 1 < 2 ^ BinaryFormat.binary64.limit :=
    lt_two_pow_of_log2_lt hlog
  rw [ofInt, hk, nearest, BinaryFormat.nearest_of_lt _ hlimit]

theorem dvd_round (m : Nat) :
  2 ^ ((BinaryFormat.binary64.round m 1).log2 - 52) ∣ BinaryFormat.binary64.round m 1
  := by
  rw [BinaryFormat.round_eq]
  apply dvd_mul_two_pow roundHalfEven_le

/-- A rounded magnitude is preferred to the places of all numbers. -/
theorem prefers_round_of_position? (m : Nat) {y : Binary64} {q : Int} (hy : y.position? = some q) :
  Prefers m (roundHalfEven m (2 ^ (m.log2 - 52)) % 2 = 0) (BinaryFormat.binary64.round m 1 : Nat) q
  := by
  obtain ⟨size, hsize, rfl | rfl⟩ := magnitude?_of_position? hy
  · apply prefers_round m (dvd_of_magnitude? hsize)
  · have hzero := prefers_round m (Nat.dvd_zero (2 ^ (Nat.log2 0 - 52)))
    rcases Nat.eq_zero_or_pos size with rfl | hpos
    · exact hzero
    · apply hzero.of_lt
      omega

/-- The number of a natural number that fits a word is the nearest one. -/
theorem isNearest_ofInt {n : Nat} (hn : n < 2 ^ 64) :
  (ofInt n).IsNearest n
  := by
  obtain ⟨hnumber, hlog⟩ := ofInt_eq_ofMagnitude (show (n : Int).natAbs < 2 ^ 64 from hn)
  rw [Int.natAbs_natCast] at hnumber hlog
  rw [hnumber, decide_eq_false (Int.not_lt.2 (Int.natCast_nonneg n)), IsNearest, ← Int.natCast_mul]
  generalize n * unitsPerOne = m at hlog ⊢
  have heven : roundHalfEven m (2 ^ (m.log2 - 52)) % 2 = 0 →
      (ofMagnitude false (BinaryFormat.binary64.round m 1)).IsEven := by
    intro h
    apply isEven_ofMagnitude false hlog
    rw [BinaryFormat.round_eq]
    apply dvd_of_even roundHalfEven_le h
  refine ⟨(BinaryFormat.binary64.round m 1 : Nat), ?_, ?_⟩
  · rw [position?_of_magnitude? (magnitude?_ofMagnitude false hlog (dvd_round m)),
      isNegative_ofMagnitude]
    rfl
  · intro y q hy
    apply (prefers_round_of_position? m hy).imp heven

/-! ### Integers that rounding may change -/

/-- Rounding does not bring a magnitude below one of at most 53 significant bits. -/
theorem le_round {m q : Nat} (hq : 2 ^ (q.log2 - 52) ∣ q) (hle : q ≤ m) :
  q ≤ BinaryFormat.binary64.round m 1
  := by
  have h := prefers_round m hq
  rw [Prefers] at h
  generalize BinaryFormat.binary64.round m 1 = rounded at h ⊢
  omega

/-- Rounding keeps the order of magnitudes, since each of them prefers its own result to that of the
other. -/
theorem round_le_round {m n : Nat} (h : m ≤ n) :
  BinaryFormat.binary64.round m 1 ≤ BinaryFormat.binary64.round n 1
  := by
  rcases Nat.eq_or_lt_of_le h with rfl | hlt
  · exact Nat.le_refl _
  · have hm := prefers_round m (dvd_round n)
    have hn := prefers_round n (dvd_round m)
    rw [Prefers] at hm hn
    omega

/-- An integer that fits a word stands at the place of its rounded magnitude. -/
theorem position?_ofInt_of_lt {i : Int} (hi : i.natAbs < 2 ^ 64) :
  (ofInt i).position?
    = some (if i < 0 then -(BinaryFormat.binary64.round (i.natAbs * unitsPerOne) 1 : Int)
        else BinaryFormat.binary64.round (i.natAbs * unitsPerOne) 1)
  := by
  obtain ⟨hnumber, hlog⟩ := ofInt_eq_ofMagnitude hi
  rw [hnumber, position?_of_magnitude? (magnitude?_ofMagnitude _ hlog (dvd_round _)),
    isNegative_ofMagnitude]
  simp only [decide_eq_true_iff]

/-- The places of the numbers of integers are in the order of the integers, if not always apart. -/
theorem position?_ofInt_le {i j : Int} {p q : Int} (hi : i.natAbs < 2 ^ 64) (hj : j.natAbs < 2 ^ 64)
    (hp : (ofInt i).position? = some p) (hq : (ofInt j).position? = some q) (h : i ≤ j) :
  p ≤ q
  := by
  rw [position?_ofInt_of_lt hi] at hp
  rw [position?_ofInt_of_lt hj] at hq
  rw [← Option.some.inj hp, ← Option.some.inj hq]
  have hmono : ∀ {a b : Nat}, a ≤ b → BinaryFormat.binary64.round (a * unitsPerOne) 1
      ≤ BinaryFormat.binary64.round (b * unitsPerOne) 1 :=
    fun hab => round_le_round (Nat.mul_le_mul_right _ hab)
  split
  · split
    · have := hmono (show j.natAbs ≤ i.natAbs by omega)
      omega
    · omega
  · rw [if_neg (show ¬ j < 0 by omega)]
    have := hmono (show i.natAbs ≤ j.natAbs by omega)
    omega

/-- An integer of absolute value less than `2 ^ 53` shares its number with no other integer that
fits a word. -/
theorem eq_of_same_ofInt {i j : Int} (hi : i.natAbs < 2 ^ 53) (hj : j.natAbs < 2 ^ 64)
    (h : (ofInt i).same (ofInt j) = true) :
  i = j
  := by
  rcases Nat.le_total j.natAbs (2 ^ 53) with hle | hge
  · apply (same_ofInt_iff (Nat.le_of_lt hi) hle).1 h
  · obtain ⟨k, -, hk⟩ := exists_unitsPerOne
    obtain ⟨p, hpi, hpj⟩ := same_iff.1 h
    rw [position?_ofInt (Nat.le_of_lt hi)] at hpi
    rw [position?_ofInt_of_lt hj] at hpj
    have hround : 2 ^ 53 * unitsPerOne ≤ BinaryFormat.binary64.round (j.natAbs * unitsPerOne) 1 := by
      apply le_round
      · rw [hk]
        apply dvd_mul_two_pow (Nat.le_refl _)
      · apply Nat.mul_le_mul_right _ hge
    have hlarge : p.natAbs = BinaryFormat.binary64.round (j.natAbs * unitsPerOne) 1 := by
      rw [← Option.some.inj hpj]
      split
      · rw [Int.natAbs_neg, Int.natAbs_natCast]
      · rw [Int.natAbs_natCast]
    have hsmall : p.natAbs < 2 ^ 53 * unitsPerOne := by
      rw [← Option.some.inj hpi, Int.natAbs_mul, Int.natAbs_natCast]
      apply Nat.mul_lt_mul_of_pos_right hi (Nat.pos_of_ne_zero unitsPerOne_ne_zero)
    rw [hlarge] at hsmall
    exact absurd hsmall (Nat.not_lt.2 hround)

end Binary64

end LayeredConfig
