import LayeredConfig.Text.Digits

/-!
# String literals in JSON texts

A string literal is read in two steps.  `JsonLiteral.pieces?` splits it, up to the closing
quote, into characters that stand for themselves and UTF-16 units that are written as escapes;
`JsonLiteral.join?` puts the units together to characters and refuses surrogates without a
partner.
-/

namespace LayeredConfig.JsonLiteral

/-- A piece of a string literal. -/
inductive Piece where
  | char (c : Char)
  /-- A UTF-16 unit. -/
  | unit (n : Nat)

/-- The character that a letter stands for after a backslash. -/
def escaped? : Char → Option Char
  | '"' => some '"'
  | '\\' => some '\\'
  | '/' => some '/'
  | 'b' => some '\x08'
  | 'f' => some '\x0c'
  | 'n' => some '\n'
  | 'r' => some '\r'
  | 't' => some '\t'
  | _ => none

/-- The unit of four hexadecimal digits. -/
def unit? (a b c d : Char) : Option Nat := Text.numeral? 16 [a, b, c, d]

/-- Splits a string literal behind its opening quote off the front of a text. -/
def pieces? : List Char → Option (List Piece × List Char)
  | [] => none
  | '"' :: rest => some ([], rest)
  | '\\' :: 'u' :: a :: b :: c :: d :: rest => do
    let n ← unit? a b c d
    let (pieces, rest) ← pieces? rest
    return (.unit n :: pieces, rest)
  | '\\' :: c :: rest => do
    let c ← escaped? c
    let (pieces, rest) ← pieces? rest
    return (.char c :: pieces, rest)
  | c :: rest =>
    if c.toNat < 0x20 then none
    else do
      let (pieces, rest) ← pieces? rest
      return (.char c :: pieces, rest)

/-- Whether a unit is the first half of a surrogate pair. -/
def isHigh (n : Nat) : Bool := decide (0xD800 ≤ n ∧ n < 0xDC00)

/-- Whether a unit is the second half of a surrogate pair. -/
def isLow (n : Nat) : Bool := decide (0xDC00 ≤ n ∧ n < 0xE000)

/-- The characters of a list of pieces; a surrogate without a partner is refused. -/
def join? : List Piece → Option (List Char)
  | [] => some []
  | .char c :: rest => (join? rest).map (c :: ·)
  | .unit high :: .unit low :: rest =>
    if isHigh high then
      if isLow low then
        (join? rest).map (.ofNat (0x10000 + (high - 0xD800) * 0x400 + (low - 0xDC00)) :: ·)
      else none
    else if isLow high then none
    else (join? (.unit low :: rest)).map (.ofNat high :: ·)
  | .unit n :: rest =>
    if isHigh n || isLow n then none else (join? rest).map (.ofNat n :: ·)

/-- Reads a string literal behind its opening quote. -/
def read? (text : List Char) : Option (String × List Char) := do
  let (pieces, rest) ← pieces? text
  return (.ofList (← join? pieces), rest)

end LayeredConfig.JsonLiteral
