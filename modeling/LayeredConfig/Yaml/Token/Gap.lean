import LayeredConfig.Yaml.Token.Character

/-!
# White space inside scalars

A `Gap` is the white space that has been read inside a scalar since its last character.
`Gap.text` is what it stands for: blanks stand for themselves, a single line break for a space,
and of several line breaks the first for nothing; blanks beside line breaks do not count.
-/

namespace LayeredConfig.YamlText

/-- White space inside a scalar. -/
inductive Gap where
  /-- Blanks in a line. -/
  | blanks (cs : List Char)
  /-- Line breaks, without the first one if it is escaped, and the number of blanks behind the
  last. -/
  | lines (escaped : Bool) (breaks : List Char) (column : Nat)

namespace Gap

/-- No white space. -/
def none : Gap := .blanks []

/-- A gap with another blank. -/
def addBlank (c : Char) : Gap → Gap
  | .blanks cs => .blanks (cs ++ [c])
  | .lines escaped breaks column => .lines escaped breaks (column + 1)

/-- A gap with another line break. -/
def addBreak (c : Char) : Gap → Gap
  | .blanks _ => .lines false [c] 0
  | .lines escaped breaks _ => .lines escaped (breaks ++ [c]) 0

/-- Whether there is no white space. -/
def isNone : Gap → Bool
  | .blanks [] => true
  | _ => false

/-- Whether a gap has a line break. -/
def isBroken : Gap → Bool
  | .blanks _ => false
  | .lines .. => true

/-- Whether a gap ends less than `column` characters behind a line break. -/
def endsBefore (column : Nat) : Gap → Bool
  | .blanks _ => false
  | .lines _ _ behind => decide (behind < column)

/-- The text of line breaks, none of which is escaped. -/
def folded : List Char → List Char
  | ['\n'] => [' ']
  | '\n' :: more => more
  | breaks => breaks

/-- The text that a gap stands for. -/
def text : Gap → List Char
  | .blanks cs => cs
  | .lines escaped breaks _ => if escaped then breaks else folded breaks

end Gap

end LayeredConfig.YamlText
