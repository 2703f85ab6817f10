import LayeredConfig.Binary64.Basic

/-!
# Shortest decimals

`Binary64.shortest` is the decimal with the fewest digits that reads back as a given finite
number, and among those the one nearest to it.  Every finite number is a multiple of
`10 ^ (-1074)`, so all of it is arithmetic on natural numbers that count this step: the
interval of values that round to the number is cut at its two ends, and on the grid of each
number of digits only the two neighbours of the number are candidates.
-/

namespace LayeredConfig

/-- The number of decimal digits of a natural number. -/
def decimalLength (n : Nat) : Nat :=
  if n < 10 then 1 else decimalLength (n / 10) + 1

/-- The decimal number `digits * 10 ^ exponent`. -/
structure Decimal where
  digits : Nat
  exponent : Int
  deriving DecidableEq

/-- A decimal with the zeros at the end of its digits moved into the exponent. -/
def Decimal.trim (digits : Nat) (exponent : Int) : Decimal :=
  if 0 < digits ∧ digits % 10 = 0 then Decimal.trim (digits / 10) (exponent + 1)
  else ⟨digits, exponent⟩
termination_by digits
decreasing_by omega

/-- Which of two equally near decimals is taken. -/
inductive DecimalTie where
  /-- The one of the larger magnitude. -/
  | up
  /-- The one with an even last digit. -/
  | even

namespace Binary64

/-- The number of decimal steps `10 ^ (-1074)` in one unit `2 ^ (-1074)`. -/
def stepsPerUnit : Nat := Nat.pow 5 1074

/-- The magnitudes that round to one finite number, in doubled decimal steps: the interval
from `low` to `high`, with its ends if `closed`.  `value` is the number itself, in decimal
steps. -/
structure RoundingInterval where
  value : Nat
  low : Nat
  high : Nat
  closed : Bool

/-- The rounding interval of the finite number with the given exponent and fraction. -/
def RoundingInterval.of (exponent : Fin 2047) (fraction : Fin (Nat.pow 2 52)) : RoundingInterval :=
  let magnitude := significand exponent fraction * spacing exponent
  let above := spacing exponent
  let below := if fraction = 0 ∧ 1 < exponent.val then above / 2 else above
  { value := magnitude * stepsPerUnit
    low := (2 * magnitude - below) * stepsPerUnit
    high := (2 * magnitude + above) * stepsPerUnit
    closed := fraction.val % 2 = 0 }

/-- Whether `n` decimal steps lie in the interval. -/
def RoundingInterval.holds (r : RoundingInterval) (n : Nat) : Bool :=
  if r.closed then decide (r.low ≤ 2 * n ∧ 2 * n ≤ r.high)
  else decide (r.low < 2 * n ∧ 2 * n < r.high)

/-- The multiple of `10 ^ grid` steps nearest to the value among its two neighbours on this
grid that lie in the interval, as a count of grid steps. -/
def RoundingInterval.onGrid (r : RoundingInterval) (tie : DecimalTie) (grid : Nat) : Option Nat :=
  let step := Nat.pow 10 grid
  let down := r.value / step
  let up := down + 1
  match r.holds (down * step), r.holds (up * step) with
  | false, false => none
  | true, false => some down
  | false, true => some up
  | true, true =>
    match compare (r.value - down * step) (up * step - r.value), tie with
    | .lt, _ => some down
    | .gt, _ => some up
    | .eq, .up => some up
    | .eq, .even => some (if down % 2 = 0 then down else up)

/-- The shortest decimal in the interval with at most 17 digits, and the value itself when
there is none. -/
def RoundingInterval.shortest (r : RoundingInterval) (tie : DecimalTie) : Decimal :=
  let length := decimalLength r.value
  let found := (List.range 17).findSome? fun i =>
    let grid := length - (i + 1)
    (r.onGrid tie grid).map fun digits => Decimal.trim digits ((grid : Int) - 1074)
  found.getD ⟨r.value, -1074⟩

/-- The shortest decimal that reads back as the magnitude of the finite number with the given
exponent and fraction. -/
def shortest (tie : DecimalTie) (exponent : Fin 2047) (fraction : Fin (Nat.pow 2 52)) : Decimal :=
  (RoundingInterval.of exponent fraction).shortest tie

end Binary64

end LayeredConfig
