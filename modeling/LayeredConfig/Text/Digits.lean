/-!
# Numerals

`Text.decimal?` reads a nonempty run of ASCII decimal digits as the number it denotes;
leading zeros are allowed and there is no bound.  `Text.numeral?` does the same for any radix
up to sixteen.
-/

namespace LayeredConfig.Text

/-- The value of an ASCII decimal digit. -/
def digit? (c : Char) : Option Nat :=
  if c.isDigit then some (c.toNat - '0'.toNat) else none

/-- The number that digits continue, when `before` has been read. -/
def continueDecimal? (before : Nat) : List Char → Option Nat
  | [] => some before
  | c :: rest => (digit? c).bind fun d => continueDecimal? (10 * before + d) rest

/-- The number denoted by a nonempty run of ASCII decimal digits. -/
def decimal? : List Char → Option Nat
  | [] => none
  | digits => continueDecimal? 0 digits

/-- The value of a hexadecimal digit. -/
def hexDigit? (c : Char) : Option Nat :=
  if '0' ≤ c ∧ c ≤ '9' then some (c.toNat - '0'.toNat)
  else if 'a' ≤ c ∧ c ≤ 'f' then some (c.toNat - 'a'.toNat + 10)
  else if 'A' ≤ c ∧ c ≤ 'F' then some (c.toNat - 'A'.toNat + 10)
  else none

/-- The number that digits of a radix continue, when `before` has been read. -/
def continueNumeral? (radix before : Nat) : List Char → Option Nat
  | [] => some before
  | c :: rest =>
    match hexDigit? c with
    | none => none
    | some d => if d < radix then continueNumeral? radix (radix * before + d) rest else none

/-- The number denoted by a nonempty run of digits of a radix. -/
def numeral? (radix : Nat) : List Char → Option Nat
  | [] => none
  | digits => continueNumeral? radix 0 digits

end LayeredConfig.Text
