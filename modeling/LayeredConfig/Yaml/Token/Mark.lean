import LayeredConfig.Text.Digits
import LayeredConfig.Yaml.Token.Basic

/-!
# Anchors, tags and directives

The names and tags that stand before a node, and the directives before a document.  Each
function reads one behind the character that announces it, and checks what follows.
-/

namespace LayeredConfig.YamlText

/-- Whether the name of an anchor can end before a text. -/
def atNameEnd (text : List Char) : Bool :=
  atSpace text || match text with
    | c :: _ =>
      c == '?' || c == ':' || c == ',' || c == ']' || c == '\x7d' || c == '%' || c == '@'
        || c == '\x60'
    | [] => false

/-- Reads the name of an anchor or alias. -/
def name? (text : List Char) : Option (String × List Char) :=
  match text.span isNameChar with
  | ([], _) => none
  | (name, rest) => if atNameEnd rest then some (.ofList name, rest) else none

/-! ### Tags -/

/-- The number of bytes that must follow a byte which starts a character. -/
def bytesAfter? (first : UInt8) : Option Nat :=
  if first < 0x80 then some 0
  else if first / 32 = 6 then some 1
  else if first / 16 = 14 then some 2
  else if first / 8 = 30 then some 3
  else none

/-- Whether a byte can follow the first one of a character. -/
def isContinuation (byte : UInt8) : Bool := byte / 64 == 2

/-- Reads a byte that is written with a percent sign and two digits. -/
def escapedByte? (text : List Char) : Option (UInt8 × List Char) :=
  match text with
  | '%' :: a :: b :: rest => (Text.numeral? 16 [a, b]).map fun n => (.ofNat n, rest)
  | _ => none

/-- Reads escaped bytes that follow the first one of a character. -/
def continuations? : Nat → List Char → Option (List UInt8 × List Char)
  | 0, text => some ([], text)
  | n + 1, text => do
    let (byte, rest) ← (escapedByte? text).filter fun read => isContinuation read.1
    let (bytes, rest) ← continuations? n rest
    return (byte :: bytes, rest)

/-- Reads the escaped bytes of a character.  The first one tells their number; whether they are
the bytes of a character at all does not matter here. -/
def escapedChar? (text : List Char) : Option (List UInt8 × List Char) := do
  let (first, rest) ← escapedByte? text
  let (bytes, rest) ← continuations? (← bytesAfter? first) rest
  return (first :: bytes, rest)

/-- Reads the bytes of at most `fuel` characters of a tag; commas and brackets count only in a
verbatim tag. -/
def tagChars? (verbatim : Bool) : Nat → List Char → Option (List UInt8 × List Char)
  | 0, text => some ([], text)
  | _, [] => some ([], [])
  | fuel + 1, c :: rest =>
    if c == '%' then do
      let (bytes, rest) ← escapedChar? (c :: rest)
      let (more, rest) ← tagChars? verbatim fuel rest
      return (bytes ++ more, rest)
    else if isTagChar c || (verbatim && (c == ',' || c == '[' || c == ']')) then do
      let (more, rest) ← tagChars? verbatim fuel rest
      return (c.toUInt8 :: more, rest)
    else some ([], c :: rest)

/-- Reads the bytes of a tag up to the first character that does not belong to it. -/
def tagBytes? (verbatim : Bool) (text : List Char) : Option (List UInt8 × List Char) :=
  tagChars? verbatim text.length text

/-- Reads a part of a tag, which has at least one byte.  A zero byte ends the part, but not the
reading. -/
def tagText? (verbatim : Bool) (text : List Char) : Option (YamlTag × List Char) := do
  match ← tagBytes? verbatim text with
  | ([], _) => none
  | (bytes, rest) => some (.upToZero bytes, rest)

/-- Whether a tag can end before a text. -/
def atTagEnd (inFlow : Bool) (text : List Char) : Bool :=
  (inFlow && text.head? == some ',') || atSpace text

/-- Reads a tag behind its mark, without a check of what follows: in angle brackets, with a
named handle, with the handle of two marks, or with that of one.  The mark alone is a tag
without a handle. -/
def bareTag? (text : List Char) : Option (YamlToken × List Char) :=
  match text with
  | '<' :: rest => do
    match ← tagText? true rest with
    | (suffix, '>' :: rest) => some (.tag "" suffix, rest)
    | _ => none
  | _ =>
    match text.span isNameChar with
    | (name, '!' :: rest) => do
      let (suffix, rest) ← tagText? false rest
      return (.tag (.ofList ('!' :: name ++ ['!'])) suffix, rest)
    | _ => do
      let (bytes, rest) ← tagBytes? false text
      let suffix := YamlTag.upToZero bytes
      return (if suffix.bytes = [] then .tag "" .bare else .tag "!" suffix, rest)

/-- Reads a tag behind its mark. -/
def tag? (inFlow : Bool) (text : List Char) : Option (YamlToken × List Char) :=
  (bareTag? text).filter fun (_, rest) => atTagEnd inFlow rest

/-! ### Directives -/

/-- Reads a part of a version number, which has at most nine digits. -/
def versionPart? (text : List Char) : Option (Nat × List Char) :=
  let (digits, rest) := text.span Char.isDigit
  if digits.length ≤ 9 then (Text.decimal? digits).map fun n => (n, rest) else none

/-- Reads a version number. -/
def version? (text : List Char) : Option (YamlToken × List Char) := do
  let (major, rest) ← versionPart? text
  match rest with
  | '.' :: rest => do
    let (minor, rest) ← versionPart? rest
    return (.versionDirective major minor, rest)
  | _ => none

/-- Reads a tag handle: a mark, or a name between two marks. -/
def handle? (text : List Char) : Option (List Char × List Char) :=
  match text with
  | '!' :: rest =>
    match rest.span isNameChar with
    | (name, '!' :: rest) => some ('!' :: name ++ ['!'], rest)
    | ([], rest) => some (['!'], rest)
    | _ => none
  | _ => none

/-- Reads a tag handle and what it stands for. -/
def handleMeaning? (text : List Char) : Option (YamlToken × List Char) := do
  let (handle, rest) ← handle? text
  if !rest.head?.any isBlank then none
  else
    let (start, rest) ← tagText? true (rest.dropWhile isBlank)
    if atSpace rest then some (.tagDirective (.ofList handle) start, rest) else none

/-- Reads a directive behind its mark, together with the end of its line. -/
def directive? (text : List Char) : Option (YamlToken × List Char) := do
  let (name, rest) := text.span isNameChar
  if !atSpace rest then none
  else
    let rest := rest.dropWhile isBlank
    let (token, rest) ←
      if name = ['Y', 'A', 'M', 'L'] then version? rest
      else if name = ['T', 'A', 'G'] then handleMeaning? rest
      else none
    return (token, ← skipLineEnd? rest)

end LayeredConfig.YamlText
