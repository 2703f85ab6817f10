import LayeredConfig.Yaml.Token.Gap

/-!
# Scalars without quotes

`YamlText.plain?` reads a scalar that is not quoted.  It ends before a colon with white space
behind it, a comment, an indicator of a flow collection around it, or a line that belongs to
something else.
-/

namespace LayeredConfig.YamlText

/-- Whether a scalar ends at a gap with `text` behind it: the line is indented less than
`floor` outside of flow collections, or a document indicator or comment follows. -/
def endsAtGap (floor : Nat) (inFlow : Bool) (gap : Gap) (text : List Char) : Bool :=
  (!inFlow && gap.endsBefore floor) || (gap.endsBefore 1 && atDocumentIndicator text)
    || (!gap.isNone && text.head? == some '#')

/-- Whether a scalar ends at a character. -/
def endsAtChar (inFlow : Bool) (c : Char) (rest : List Char) : Bool :=
  (c == ':' && atSpace rest) || (inFlow && isFlowIndicator c)

/-- Whether a colon in a flow collection stands before another indicator, which is refused. -/
def isMisplacedColon (inFlow : Bool) (c : Char) (rest : List Char) : Bool :=
  inFlow && c == ':' && match rest with
    | d :: _ => d == '?' || isFlowIndicator d
    | [] => false

/-- Reads a scalar behind a gap.  `floor` is the least column of its lines outside of flow
collections.  The second part of the answer tells whether a line break behind the scalar has
been read. -/
def plain? (floor : Nat) (inFlow : Bool) (gap : Gap) :
    List Char → Option (List Char × Bool × List Char)
  | [] => some ([], gap.isBroken, [])
  | c :: rest =>
    if isBlank c then
      if c == '\t' && gap.endsBefore floor then none
      else plain? floor inFlow (gap.addBlank c) rest
    else if isBreak c then plain? floor inFlow (gap.addBreak c) rest
    else if endsAtGap floor inFlow gap (c :: rest) then some ([], gap.isBroken, c :: rest)
    else if isMisplacedColon inFlow c rest then none
    else if endsAtChar inFlow c rest then some ([], gap.isBroken, c :: rest)
    else
      match plain? floor inFlow .none rest with
      | none => none
      | some (text, broken, rest) => some (gap.text ++ c :: text, broken, rest)

end LayeredConfig.YamlText
