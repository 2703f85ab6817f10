/-!
# Integers that fit a word

A `WordInteger` is an integer that fits a signed or an unsigned word of 64 bits.  `toInt64?`
is its signed word, if it has one.
-/

namespace LayeredConfig

/-- An integer between the least signed and the greatest unsigned word. -/
structure WordInteger where
  val : Int
  lower : Int64.minValue.toInt ≤ val
  upper : val < UInt64.size
  deriving DecidableEq

namespace WordInteger

/-- An integer as a word, if it fits. -/
def ofInt? (i : Int) : Option WordInteger :=
  if h : Int64.minValue.toInt ≤ i ∧ i < UInt64.size then some ⟨i, h.1, h.2⟩ else none

/-- The integer that a signed word stands for. -/
def ofInt64 (i : Int64) : WordInteger :=
  ⟨i.toInt, Int64.minValue_le_toInt i, Int.lt_of_le_of_lt (Int64.toInt_le i) (by decide)⟩

/-- The integer that an unsigned word stands for. -/
def ofUInt64 (n : UInt64) : WordInteger :=
  ⟨n.toNat, Int.le_trans (by decide) (Int.natCast_nonneg _), Int.ofNat_lt.2 n.toNat_lt_size⟩

/-- The signed word of an integer that fits one. -/
def toInt64? (i : WordInteger) : Option Int64 :=
  if i.val ≤ Int64.maxValue.toInt then some (.ofInt i.val) else none

theorem toInt64?_ofInt64 (i : Int64) :
  (ofInt64 i).toInt64? = some i
  := by
  exact (if_pos (Int64.toInt_le i)).trans (congrArg some (Int64.ofInt_toInt i))

theorem ofInt64_ofInt {i : WordInteger} (h : i.val ≤ Int64.maxValue.toInt) :
  ofInt64 (.ofInt i.val) = i
  := by
  obtain ⟨val, lower, upper⟩ := i
  simp only [ofInt64, mk.injEq]
  exact Int64.toInt_ofInt_of_le lower (Int.lt_add_one_of_le h)

theorem ofUInt64_ofNat {i : WordInteger} (h : ¬i.val < 0) :
  ofUInt64 (.ofNat i.val.toNat) = i
  := by
  obtain ⟨val, lower, upper⟩ := i
  have hnonneg : 0 ≤ val := Int.not_lt.1 h
  have hsize : val.toNat < UInt64.size := (Int.toNat_lt hnonneg).2 upper
  simp only [ofUInt64, mk.injEq]
  rw [UInt64.toNat_ofNat_of_lt' hsize, Int.toNat_of_nonneg hnonneg]

end WordInteger

end LayeredConfig
