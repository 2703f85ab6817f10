import LayeredConfig.Binary64.Rounding
import LayeredConfig.Json.Number
import LayeredConfig.Text.Digits
import LayeredConfig.Yaml.Basic
import LayeredConfig.Yaml.Token.Basic

/-!
# YAML scalars

`Yaml.ofPlain?` is the value of a scalar that is written without quotes and without a tag: it
is null, a boolean, an integer or a float if it is spelled like one, and a string if not.
`Yaml.ofScalar?` is the value of any scalar; its tag can ask for one of these kinds or for a
kind that is local to the document.
-/

namespace LayeredConfig.Yaml

/-- Whether a text spells null. -/
def isNullText (text : String) : Bool :=
  text == "null" || text == "Null" || text == "NULL" || text == "~"

/-- The boolean that a text spells. -/
def boolOf? (text : String) : Option Bool :=
  if text == "true" || text == "True" || text == "TRUE" then some true
  else if text == "false" || text == "False" || text == "FALSE" then some false
  else none

/-! ### Integers -/

/-- Whether digits start with a zero that is not the only one. -/
def hasLeadingZero : List Char → Bool
  | '0' :: c :: rest => (c :: rest).all Char.isDigit
  | _ => false

/-- A text without the sign in front of it. -/
def unsigned : List Char → List Char
  | '+' :: rest | '-' :: rest => rest
  | text => text

/-- The number that a text without a sign spells, in the radix that its start names or in
decimal digits without a leading zero. -/
def natural? (text : List Char) : Option Nat :=
  match text with
  | '0' :: 'x' :: rest => Text.numeral? 16 rest
  | '0' :: 'o' :: rest => Text.numeral? 8 rest
  | '0' :: 'b' :: rest => Text.numeral? 2 rest
  | _ => if hasLeadingZero text then none else Text.decimal? text

/-- The integer that a text spells, with an optional sign. -/
def integer? (text : List Char) : Option Int :=
  match text with
  | '-' :: rest => (natural? rest).map fun n => -(n : Int)
  | '+' :: rest => (natural? rest).map fun n => (n : Int)
  | _ => (natural? text).map fun n => (n : Int)

/-- The integer that a text spells, as far as 128 bits hold it. -/
def boundedInteger? (text : List Char) : Option Int :=
  (integer? text).filter fun i => decide (-Int.pow 2 127 ≤ i ∧ i < Int.pow 2 128)

/-! ### Floats -/

/-- The float that decimal digits spell, with an optional minus, point and exponent. -/
def decimalFloat? (text : List Char) : Option Binary64 := do
  let (negative, text) := match text with
    | '-' :: rest => (true, rest)
    | _ => (false, text)
  let (whole, text) := JsonNumeral.spanDigits text
  let (fraction, text) := match text with
    | '.' :: rest => JsonNumeral.spanDigits rest
    | _ => ([], text)
  let digits ← Text.decimal? (whole ++ fraction)
  let (exponent, text) ← JsonNumeral.exponent? text
  let power := match exponent with
    | none => 0
    | some (negative, digits) =>
      let size : Int := (Text.decimal? digits).getD 0
      if negative then -size else size
  if text.isEmpty then some (.ofDecimal negative digits (power - fraction.length)) else none

/-- The float that a text spells: a word for an infinity or for `nan`, or decimal digits whose
value does not go beyond all finite numbers.  There is at most one sign. -/
def float? (text : String) : Option Binary64 :=
  if text == ".inf" || text == ".Inf" || text == ".INF" then some (.infinite false)
  else if text == "+.inf" || text == "+.Inf" || text == "+.INF" then some (.infinite false)
  else if text == "-.inf" || text == "-.Inf" || text == "-.INF" then some (.infinite true)
  else if text == ".nan" || text == ".NaN" || text == ".NAN" then some .nan
  else
    let decimal := match text.toList with
      | '+' :: '-' :: _ => none
      | '+' :: rest => decimalFloat? rest
      | text => decimalFloat? text
    decimal.filter Binary64.isFinite

/-! ### Values -/

/-- The value of an untagged scalar that is not quoted.  There is none for an integer that 128
bits hold but no word does. -/
def ofPlain? (text : String) : Option Yaml :=
  if text == "" || isNullText text then some .null
  else
    match boolOf? text with
    | some b => some (.bool b)
    | none =>
      match boundedInteger? text.toList with
      | some i => (WordInteger.ofInt? i).map .integer
      | none =>
        if hasLeadingZero (unsigned text.toList) then some (.string text)
        else
          match float? text with
          | some x => some (.float x)
          | none => some (.string text)

/-- The value of an untagged scalar. -/
def ofUntagged? (isPlain : Bool) (text : String) : Option Yaml :=
  if isPlain then ofPlain? text else some (.string text)

/-- The tag of a core kind of scalars. -/
def coreTag (kind : String) : YamlTag := .ofString ("tag:yaml.org,2002:" ++ kind)

/-- A value under its tag, which stays around it only if it is local and its name is text; a
second mark in front of the name is dropped like the first. -/
def ofLocal (tag : YamlTag) (y : Yaml) : Yaml :=
  match tag.localName? with
  | some name => .tagged (tagName name) y
  | none => y

/-- The value of a scalar.  A tag of a core kind must fit the text, quoted or not; a local tag
stays around the value; under any other tag it is a string. -/
def ofScalar? (tag : Option YamlTag) (isPlain : Bool) (text : String) : Option Yaml :=
  match tag with
  | none => ofUntagged? isPlain text
  | some tag =>
    if tag.isLocal then (ofUntagged? isPlain text).map (ofLocal tag)
    else if tag == coreTag "bool" then (boolOf? text).map .bool
    else if tag == coreTag "int" then
      ((integer? text.toList).bind WordInteger.ofInt?).map .integer
    else if tag == coreTag "float" then (float? text).map .float
    else if tag == coreTag "null" then if isNullText text then some .null else none
    else some (.string text)

/-- A collection under its tag, which counts only if it is local. -/
def ofCollection (tag : Option YamlTag) (y : Yaml) : Yaml :=
  match tag with
  | none => y
  | some tag => ofLocal tag y

end LayeredConfig.Yaml
