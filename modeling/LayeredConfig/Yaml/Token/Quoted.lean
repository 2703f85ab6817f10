import LayeredConfig.Text.Digits
import LayeredConfig.Yaml.Token.Gap

/-!
# Quoted scalars

`YamlText.single?` and `YamlText.double?` read a scalar behind its opening single or double
quote.  Between single quotes a quote is written twice; between double quotes a backslash
starts an escape, and before a line break it removes the line break.
-/

namespace LayeredConfig.YamlText

/-- A character put in front of what has been read, behind the text of a gap. -/
def prepend (gap : Gap) (c : Char) (read : Option (List Char × List Char)) :
    Option (List Char × List Char) :=
  read.map fun (text, rest) => (gap.text ++ c :: text, rest)

/-- Reads a scalar behind its opening single quote and a gap. -/
def single? (gap : Gap) : List Char → Option (List Char × List Char)
  | [] => none
  | '\x27' :: '\x27' :: rest => prepend gap '\x27' (single? .none rest)
  | '\x27' :: rest => some (gap.text, rest)
  | c :: rest =>
    if isBlank c then single? (gap.addBlank c) rest
    else if isBreak c then single? (gap.addBreak c) rest
    else if gap.endsBefore 1 && atDocumentIndicator (c :: rest) then none
    else prepend gap c (single? .none rest)

/-- The character that a letter stands for after a backslash. -/
def escaped? : Char → Option Char
  | '0' => some '\x00'
  | 'a' => some '\x07'
  | 'b' => some '\x08'
  | 't' | '\t' => some '\t'
  | 'n' => some '\n'
  | 'v' => some '\x0b'
  | 'f' => some '\x0c'
  | 'r' => some '\r'
  | 'e' => some '\x1b'
  | ' ' => some ' '
  | '"' => some '"'
  | '/' => some '/'
  | '\\' => some '\\'
  | 'N' => some '\u0085'
  | '_' => some '\u00a0'
  | 'L' => some '\u2028'
  | 'P' => some '\u2029'
  | _ => none

/-- The character whose code point is given by hexadecimal digits. -/
def coded? (digits : List Char) : Option Char := do
  let n ← Text.numeral? 16 digits
  if n.isValidChar then some (.ofNat n) else none

/-- Reads a scalar behind its opening double quote and a gap. -/
def double? (gap : Gap) : List Char → Option (List Char × List Char)
  | [] => none
  | '"' :: rest => some (gap.text, rest)
  | '\\' :: 'x' :: a :: b :: rest => do prepend gap (← coded? [a, b]) (double? .none rest)
  | '\\' :: 'u' :: a :: b :: c :: d :: rest => do
    prepend gap (← coded? [a, b, c, d]) (double? .none rest)
  | '\\' :: 'U' :: a :: b :: c :: d :: e :: f :: g :: h :: rest => do
    prepend gap (← coded? [a, b, c, d, e, f, g, h]) (double? .none rest)
  | '\\' :: c :: rest =>
    if isBreak c then
      (double? (.lines true [] 0) rest).map fun (text, rest) => (gap.text ++ text, rest)
    else do prepend gap (← escaped? c) (double? .none rest)
  | c :: rest =>
    if isBlank c then double? (gap.addBlank c) rest
    else if isBreak c then double? (gap.addBreak c) rest
    else if gap.endsBefore 1 && atDocumentIndicator (c :: rest) then none
    else prepend gap c (double? .none rest)

end LayeredConfig.YamlText
