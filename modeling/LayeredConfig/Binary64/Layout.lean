import LayeredConfig.Binary64.Shortest

/-!
# Number layouts

A `NumberLayout` says how the shortest decimal of a number is laid out as text: which numbers
are written positionally and which with an exponent, whether a whole number keeps a fraction
mark, and the words for the values that are not finite.  `NumberLayout.text` writes a number.
-/

namespace LayeredConfig

/-- The decisions of one way to write numbers. -/
structure NumberLayout where
  /-- The least and greatest power of ten of the first digit that are written positionally;
  `none` when all are. -/
  positional : Option (Int × Int)
  /-- What follows a whole number that is written positionally. -/
  wholeMark : String
  /-- Which of two equally near shortest decimals is written. -/
  tie : DecimalTie
  /-- The word for `nan`. -/
  nan : String
  /-- The word for an infinity. -/
  infinity : String

namespace NumberLayout

/-- A run of zeros. -/
def zeros (n : Nat) : List Char := List.replicate n '0'

/-- Digits written positionally: the digits, moved by `exponent` places. -/
def positionalDigits (wholeMark : String) (digits : List Char) (exponent : Int) : List Char :=
  let lead := exponent + digits.length
  if 0 ≤ exponent then
    digits ++ zeros exponent.toNat ++ wholeMark.toList
  else if 0 < lead then
    digits.take lead.toNat ++ '.' :: digits.drop lead.toNat
  else
    '0' :: '.' :: zeros (-lead).toNat ++ digits

/-- Digits written with an exponent: one digit, the others behind a point, and the power of
ten of the first digit. -/
def exponentialDigits (digits : List Char) (exponent : Int) : List Char :=
  let power := (toString (exponent + digits.length - 1)).toList
  match digits with
  | [] => []
  | [d] => d :: 'e' :: power
  | d :: rest => d :: '.' :: rest ++ 'e' :: power

/-- The text of a decimal. -/
def decimalText (layout : NumberLayout) (d : Decimal) : List Char :=
  let digits := (toString d.digits).toList
  let lead := d.exponent + digits.length - 1
  let isPositional := match layout.positional with
    | none => true
    | some (least, greatest) => decide (least ≤ lead ∧ lead ≤ greatest)
  if isPositional then positionalDigits layout.wholeMark digits d.exponent
  else exponentialDigits digits d.exponent

/-- A magnitude behind its sign. -/
def signed (negative : Bool) (magnitude : List Char) : String :=
  .ofList (if negative then '-' :: magnitude else magnitude)

/-- The text of a number. -/
def text (layout : NumberLayout) (x : Binary64) : String :=
  match x with
  | .nan => layout.nan
  | .infinite negative => signed negative layout.infinity.toList
  | .finite negative exponent fraction =>
    if exponent = 0 ∧ fraction = 0 then
      signed negative ('0' :: layout.wholeMark.toList)
    else
      signed negative (layout.decimalText (Binary64.shortest layout.tie exponent fraction))

end NumberLayout

end LayeredConfig
