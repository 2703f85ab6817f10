import LayeredConfig.Binary64.Rounding
import LayeredConfig.Json.Basic
import LayeredConfig.Text.Digits

/-!
# Numbers in JSON texts

`JsonNumeral.read?` splits a number off the front of a text, and `JsonNumeral.value?` is the
number it stands for.  A numeral without a fraction and an exponent whose digits fit an
unsigned word is an integer, unless it is `-0` or lies below the signed words.  Everything
else is a float: its digits are gathered into a significand that fits an unsigned word, what
does not fit moving the exponent or being dropped; the significand is rounded to binary64, and
multiplied or divided by the binary64 number nearest to the power of ten, rounding each time.
-/

namespace LayeredConfig

/-- A number as it is written: its sign, the digits before the point, those after it, and the
sign and digits of its exponent. -/
structure JsonNumeral where
  negative : Bool
  whole : List Char
  fraction : Option (List Char)
  exponent : Option (Bool × List Char)

namespace JsonNumeral

/-- Splits a run of digits off the front of a text. -/
def spanDigits (text : List Char) : List Char × List Char := text.span Char.isDigit

/-- Splits a nonempty run of digits off the front of a text. -/
def digits? (text : List Char) : Option (List Char × List Char) :=
  match spanDigits text with
  | ([], _) => none
  | parts => some parts

/-- Splits the digits before the point off: a zero alone, or digits that do not start with
one. -/
def whole? (text : List Char) : Option (List Char × List Char) :=
  match digits? text with
  | some ('0' :: _ :: _, _) => none
  | parts => parts

/-- Splits a point and the digits after it off, if there is a point. -/
def fraction? (text : List Char) : Option (Option (List Char) × List Char) :=
  match text with
  | '.' :: rest => (digits? rest).map fun (ds, rest) => (some ds, rest)
  | _ => some (none, text)

/-- Splits the sign of an exponent off; it is negative only after a minus. -/
def exponentSign (text : List Char) : Bool × List Char :=
  match text with
  | '-' :: rest => (true, rest)
  | '+' :: rest => (false, rest)
  | _ => (false, text)

/-- Splits an exponent off, if there is one. -/
def exponent? (text : List Char) : Option (Option (Bool × List Char) × List Char) :=
  match text with
  | 'e' :: rest | 'E' :: rest =>
    let (negative, rest) := exponentSign rest
    (digits? rest).map fun (ds, rest) => (some (negative, ds), rest)
  | _ => some (none, text)

/-- Splits a number off the front of a text. -/
def read? (text : List Char) : Option (JsonNumeral × List Char) := do
  let (negative, rest) := match text with
    | '-' :: rest => (true, rest)
    | rest => (false, rest)
  let (whole, rest) ← whole? rest
  let (fraction, rest) ← fraction? rest
  let (exponent, rest) ← exponent? rest
  return (⟨negative, whole, fraction, exponent⟩, rest)

/-! ### Values -/

/-- Gathers digits into a significand as long as it fits an unsigned word; the other digits
are left over. -/
def gather (significand : Nat) : List Char → Nat × List Char
  | [] => (significand, [])
  | d :: rest =>
    let next := 10 * significand + (d.toNat - '0'.toNat)
    if next < UInt64.size then gather next rest else (significand, d :: rest)

/-- The magnitude of the binary64 number nearest to a power of ten. -/
def tenTo (n : Nat) : Nat := BinaryFormat.binary64.round (Nat.pow 10 n * Binary64.unitsPerOne) 1

/-- A magnitude moved by a power of ten, in steps of at most 308 places that round each time;
`none` when it goes beyond all finite numbers. -/
def moved? (magnitude : Nat) (exponent : Int) : Option Nat :=
  if exponent < -308 then
    if magnitude = 0 then some 0
    else
      let less := BinaryFormat.binary64.round (magnitude * Binary64.unitsPerOne) (tenTo 308)
      moved? less (exponent + 308)
  else if exponent < 0 then
    some (BinaryFormat.binary64.round (magnitude * Binary64.unitsPerOne) (tenTo exponent.natAbs))
  else if exponent ≤ 308 then
    let product :=
      BinaryFormat.binary64.round (magnitude * tenTo exponent.natAbs) Binary64.unitsPerOne
    if product < Binary64.beyond then some product else none
  else if magnitude = 0 then some 0
  else none
termination_by exponent.natAbs
decreasing_by omega

/-- The float of a significand moved by a power of ten. -/
def float? (negative : Bool) (significand : Nat) (exponent : Int) : Option JsonNumber := do
  let magnitude := BinaryFormat.binary64.round (significand * Binary64.unitsPerOne) 1
  JsonNumber.ofBinary64? (.ofMagnitude negative (← moved? magnitude exponent))

/-- The integer of a significand that fits an unsigned word, or a float for `-0` and below the
signed words. -/
def integer? (negative : Bool) (significand : Nat) : Option JsonNumber :=
  if negative then
    if 0 < significand ∧ Int64.minValue.toInt ≤ -(significand : Int) then
      (WordInteger.ofInt? (-(significand : Int))).map .integer
    else
      float? true significand 0
  else
    (WordInteger.ofInt? significand).map .integer

/-- The value of an exponent, held at a bound beyond which its size no longer matters. -/
def exponentValue (exponent : Bool × List Char) : Int :=
  let size : Int := min ((Text.decimal? exponent.2).getD 0) 0x80000000
  if exponent.1 then -size else size

/-- The number that a numeral stands for; `none` when it goes beyond all finite numbers. -/
def value? (n : JsonNumeral) : Option JsonNumber :=
  let (significand, surplus) := gather 0 n.whole
  match n.fraction, n.exponent, surplus with
  | none, none, [] => integer? n.negative significand
  | fraction, exponent, surplus =>
    let places := fraction.getD []
    let (significand, dropped) := gather significand places
    let point : Int := surplus.length - (places.length - dropped.length : Nat)
    float? n.negative significand (point + (exponent.map exponentValue).getD 0)

end JsonNumeral

end LayeredConfig
