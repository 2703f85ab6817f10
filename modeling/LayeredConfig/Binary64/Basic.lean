/-!
# Binary64 numbers

`Binary64` is the type of IEEE 754 binary64 numbers in which all not-a-number patterns are
one value.  `ofBits` and `toBits` go between a number and its 64 bits.  A finite number is
an exact multiple of `2 ^ (-1074)`: `magnitude` counts these units in its absolute value,
and `position` places every number other than `nan` on the line of integers, the two
infinities just beyond all finite numbers.  Comparison and equality are those of positions,
so the two zeros are equal and `nan` is comparable with nothing.  `whole?` is the integer that
a number without a fractional part is, and `toInt64` the signed word that any number is cut to.
-/

namespace LayeredConfig

/-- Zero is an exponent. -/
instance exponents_neZero : @NeZero Nat Zero.ofOfNat0 2047 := ⟨by decide⟩

/-- Zero is a fraction. -/
instance fractions_neZero : @NeZero Nat Zero.ofOfNat0 (Nat.pow 2 52) := ⟨by decide⟩

/-- A binary64 number: not a number, an infinity, or a finite number given by its sign, its
biased exponent and its fraction. -/
inductive Binary64 where
  | nan
  | infinite (negative : Bool)
  | finite (negative : Bool) (exponent : Fin 2047) (fraction : Fin (Nat.pow 2 52))
  deriving DecidableEq

namespace Binary64

/-- The number of units `2 ^ (-1074)` in one. -/
def unitsPerOne : Nat := Nat.pow 2 1074

/-- The number of units in the least power of two beyond every finite number. -/
def beyond : Nat := Nat.pow 2 2098

/-- The positive zero. -/
def zero : Binary64 := .finite false 0 0

instance : Inhabited Binary64 := ⟨zero⟩

/-! ### Bits -/

/-- The number with the given bit pattern. -/
def ofBits (bits : UInt64) : Binary64 :=
  let n := bits.toNat
  let negative := decide (Nat.pow 2 63 ≤ n)
  let exponent := n / Nat.pow 2 52 % Nat.pow 2 11
  let fraction := Fin.ofNat (Nat.pow 2 52) n
  if h : exponent < 2047 then
    .finite negative ⟨exponent, h⟩ fraction
  else if fraction = 0 then
    .infinite negative
  else
    .nan

/-- The bit pattern of a number; `nan` has the quiet pattern without a payload. -/
def toBits : Binary64 → UInt64
  | .nan => 0x7ff8000000000000
  | .infinite negative => signBit negative + 0x7ff0000000000000
  | .finite negative exponent fraction =>
    signBit negative + UInt64.ofNat (exponent.val * Nat.pow 2 52 + fraction.val)
where
  /-- The bit that carries the sign. -/
  signBit (negative : Bool) : UInt64 := if negative then 0x8000000000000000 else 0

/-! ### Exact values -/

/-- The significand of a finite number: the fraction, with the leading bit that a nonzero
exponent stands for. -/
def significand (exponent : Fin 2047) (fraction : Fin (Nat.pow 2 52)) : Nat :=
  if exponent = 0 then fraction.val else Nat.pow 2 52 + fraction.val

/-- The distance from a finite number to the next larger magnitude, in units. -/
def spacing (exponent : Fin 2047) : Nat := Nat.pow 2 (exponent.val - 1)

/-- The absolute value of a number in units; an infinity stands at `beyond`, and `nan` has
none. -/
def magnitude? : Binary64 → Option Nat
  | .nan => none
  | .infinite _ => some beyond
  | .finite _ exponent fraction => some (significand exponent fraction * spacing exponent)

/-- Whether the sign is negative; `nan` has no sign. -/
def isNegative : Binary64 → Bool
  | .nan => false
  | .infinite negative => negative
  | .finite negative _ _ => negative

/-- The place of a number on the line of integers, in units. -/
def position? (x : Binary64) : Option Int :=
  x.magnitude?.map fun m => if x.isNegative then -(m : Int) else m

/-- Whether a number is neither infinite nor `nan`. -/
def isFinite : Binary64 → Bool
  | .finite _ _ _ => true
  | _ => false

/-- The number of the given magnitude, cut down to 53 significant bits; an infinity when the
magnitude lies beyond all finite numbers. -/
def ofMagnitude (negative : Bool) (magnitude : Nat) : Binary64 :=
  if magnitude < Nat.pow 2 52 then
    .finite negative 0 (Fin.ofNat (Nat.pow 2 52) magnitude)
  else
    let shift := magnitude.log2 - 52
    if h : shift + 1 < 2047 then
      .finite negative ⟨shift + 1, h⟩ (Fin.ofNat (Nat.pow 2 52) (magnitude / Nat.pow 2 shift))
    else
      .infinite negative

/-- The integer that a finite number without a fractional part is. -/
def whole? (x : Binary64) : Option Int :=
  if x.isFinite then
    x.position?.bind fun p =>
      if p % (unitsPerOne : Int) = 0 then some (p / (unitsPerOne : Int)) else none
  else
    none

/-- Whether a number is finite and has no fractional part. -/
def isWhole (x : Binary64) : Bool := x.whole?.isSome

/-- The signed word that a number is cut to: without its fractional part, and not beyond the
signed words; `nan` is cut to zero. -/
def toInt64 (x : Binary64) : Int64 :=
  match x.position? with
  | none => 0
  | some p => .ofInt (max Int64.minValue.toInt (min (p.tdiv unitsPerOne) Int64.maxValue.toInt))

/-- The number without its sign. -/
def abs : Binary64 → Binary64
  | .nan => .nan
  | .infinite _ => .infinite false
  | .finite _ exponent fraction => .finite false exponent fraction

/-! ### Order -/

/-- The order of two numbers by their exact values; `none` when one of them is `nan`. -/
def compare? (x y : Binary64) : Option Ordering :=
  match x.position?, y.position? with
  | some p, some q => some (compare p q)
  | _, _ => none

/-- Whether a number is below another; `nan` is neither below a number nor above it. -/
def isBelow (x y : Binary64) : Bool := x.compare? y == some .lt

/-- Numeric equality: the zeros are equal, and `nan` differs from itself. -/
def same (x y : Binary64) : Bool :=
  match x.position?, y.position? with
  | some p, some q => p == q
  | _, _ => false

/-- Whether a number is one of the two zeros. -/
def isZero (x : Binary64) : Bool := x.same zero

theorem same_iff {x y : Binary64} :
  x.same y = true ↔ ∃ p, x.position? = some p ∧ y.position? = some p
  := by
  cases hx : x.position? <;> cases hy : y.position? <;> simp only [same, hx, hy]
  case some.some p q =>
    constructor
    · intro h
      exact ⟨p, rfl, by rw [beq_iff_eq.1 h]⟩
    · rintro ⟨r, hp, hq⟩
      rw [beq_iff_eq, Option.some.inj hp, Option.some.inj hq]
  all_goals simp

theorem same_comm (x y : Binary64) :
  x.same y = y.same x
  := by
  rw [Bool.eq_iff_iff, same_iff, same_iff]
  exact exists_congr fun _ => and_comm

theorem same_trans {x y z : Binary64} (hxy : x.same y = true) (hyz : y.same z = true) :
  x.same z = true
  := by
  obtain ⟨p, hx, hy⟩ := same_iff.1 hxy
  obtain ⟨q, hy', hz⟩ := same_iff.1 hyz
  have h : p = q := by simpa [hy] using hy'
  exact same_iff.2 ⟨p, hx, h ▸ hz⟩

end Binary64

end LayeredConfig
