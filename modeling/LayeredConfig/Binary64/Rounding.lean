import LayeredConfig.Binary64.Basic

/-!
# Rounding to binary formats

`roundHalfEven` is the integer nearest to a quotient, a tie going to the even neighbour.
A `BinaryFormat` rounds a quotient of units `2 ^ (-1074)` to its precision; `binary64` is
the format of `Binary64` itself and `binary32` the narrower one.  `Binary64.nearest`,
`Binary64.ofInt` and `Binary64.toBinary32` are the numbers nearest to a quotient, an integer
and a binary64 number.
-/

namespace LayeredConfig

/-- The integer nearest to `num / den`, a tie going to the even neighbour. -/
def roundHalfEven (num den : Nat) : Nat :=
  let quotient := num / den
  let twice := 2 * (num % den)
  if twice < den then quotient
  else if den < twice then quotient + 1
  else quotient + quotient % 2

/-- A rounded quotient is the quotient or its successor. -/
theorem roundHalfEven_bounds (num den : Nat) :
  num / den ≤ roundHalfEven num den ∧ roundHalfEven num den ≤ num / den + 1
  := by
  simp only [roundHalfEven]
  have := Nat.mod_lt (num / den) (show 2 > 0 by decide)
  split
  · omega
  · split <;> omega

/-- A binary floating-point format: the number of significant bits, the least bit, as a power
of two counted from the unit `2 ^ (-1074)`, and the least power of two beyond all its finite
numbers, counted likewise. -/
structure BinaryFormat where
  precision : Nat
  least : Nat
  limit : Nat

namespace BinaryFormat

/-- The format with 53 significant bits. -/
def binary64 : BinaryFormat := ⟨53, 0, 2098⟩

/-- The format with 24 significant bits. -/
def binary32 : BinaryFormat := ⟨24, 925, 1202⟩

/-- The magnitude nearest to `num / den` units among the multiples of the format's bit at that
size, whether or not it lies beyond the format's finite numbers. -/
def round (format : BinaryFormat) (num den : Nat) : Nat :=
  let shift := max format.least ((num / den).log2 + 1 - format.precision)
  roundHalfEven num (den * Nat.pow 2 shift) * Nat.pow 2 shift

/-- The number of the format nearest to `num / den` units, with the given sign. -/
def nearest (format : BinaryFormat) (negative : Bool) (num den : Nat) : Binary64 :=
  let magnitude := format.round num den
  if Nat.pow 2 format.limit ≤ magnitude then .infinite negative
  else .ofMagnitude negative magnitude

end BinaryFormat

namespace Binary64

/-- The binary64 number nearest to `num / den` units, with the given sign. -/
def nearest (negative : Bool) (num den : Nat) : Binary64 :=
  BinaryFormat.binary64.nearest negative num den

/-- The binary64 number nearest to an integer. -/
def ofInt (i : Int) : Binary64 :=
  nearest (decide (i < 0)) (i.natAbs * unitsPerOne) 1

/-- The binary32 number nearest to a binary64 number. -/
def toBinary32 : Binary64 → Binary64
  | .nan => .nan
  | .infinite negative => .infinite negative
  | .finite negative exponent fraction =>
    BinaryFormat.binary32.nearest negative (significand exponent fraction * spacing exponent) 1

/-- The binary64 number nearest to `digits * 10 ^ exponent`, with the given sign. -/
def ofDecimal (negative : Bool) (digits : Nat) (exponent : Int) : Binary64 :=
  let size := exponent + (digits.log2 / 3 + 1 : Nat)
  if digits = 0 then .finite negative 0 0
  else if exponent > 400 then .infinite negative
  else if size < -400 then .finite negative 0 0
  else
    match exponent with
    | .ofNat e => nearest negative (digits * Nat.pow 10 e * unitsPerOne) 1
    | .negSucc e => nearest negative (digits * unitsPerOne) (Nat.pow 10 (e + 1))

end Binary64

end LayeredConfig
