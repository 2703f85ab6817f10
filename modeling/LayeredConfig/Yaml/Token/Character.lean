/-!
# Characters of YAML texts

The classes of characters that YAML texts are made of.  `YamlText.prepare?` refuses a text with
a character that YAML does not allow, and makes line breaks uniform: the ones that are left are
the line feed and the two separators of Unicode.
-/

namespace LayeredConfig.YamlText

/-- Whether a character ends a line, in a text whose line breaks are uniform. -/
def isBreak (c : Char) : Bool := c == '\n' || c == '\u2028' || c == '\u2029'

/-- Whether a character is a space or a tab. -/
def isBlank (c : Char) : Bool := c == ' ' || c == '\t'

/-- Whether a character can stand in an anchor or between the marks of a tag handle. -/
def isNameChar (c : Char) : Bool := c.isAlphanum || c == '_' || c == '-'

/-- Whether a character can stand in a tag without being escaped. -/
def isTagChar (c : Char) : Bool :=
  isNameChar c || c == ';' || c == '/' || c == '?' || c == ':' || c == '@' || c == '&' || c == '='
    || c == '+' || c == '$' || c == '.' || c == '!' || c == '~' || c == '*' || c == '\x27'
    || c == '(' || c == ')'

/-- Whether a character delimits the items of flow collections. -/
def isFlowIndicator (c : Char) : Bool :=
  c == ',' || c == '[' || c == ']' || c == '\x7b' || c == '\x7d'

/-- The mark that may stand at the start of a line to tell the byte order. -/
def byteOrderMark : Char := '\ufeff'

/-- Whether YAML allows a character. -/
def isAllowed (c : Char) : Bool :=
  let n := c.toNat
  n == 0x09 || n == 0x0A || n == 0x0D || (decide (0x20 ≤ n) && decide (n ≤ 0x7E)) || n == 0x85
    || (decide (0xA0 ≤ n) && n != 0xFFFE && n != 0xFFFF)

/-- Whether a text is at its end, at a line break or at a blank. -/
def atSpace : List Char → Bool
  | [] => true
  | c :: _ => isBlank c || isBreak c

/-- Whether a text starts with three hyphens or three points that stand alone. -/
def atDocumentIndicator : List Char → Bool
  | '-' :: '-' :: '-' :: rest => atSpace rest
  | '.' :: '.' :: '.' :: rest => atSpace rest
  | _ => false

/-- A text with a line feed for each carriage return, each pair of the two, and each next-line
character. -/
def unifyBreaks : List Char → List Char
  | [] => []
  | '\r' :: '\n' :: rest => '\n' :: unifyBreaks rest
  | c :: rest => (if c == '\r' || c == '\u0085' then '\n' else c) :: unifyBreaks rest

/-- A text with uniform line breaks, if all its characters are allowed. -/
def prepare? (text : List Char) : Option (List Char) :=
  if text.all isAllowed then some (unifyBreaks text) else none

/-- What stands behind the end of the line when there are only blanks and a comment before
it. -/
def skipLineEnd? (text : List Char) : Option (List Char) :=
  let rest := match text.dropWhile isBlank with
    | '#' :: rest => rest.dropWhile fun c => !isBreak c
    | rest => rest
  match rest with
  | [] => some []
  | c :: rest => if isBreak c then some rest else none

end LayeredConfig.YamlText
