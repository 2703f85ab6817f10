import LayeredConfig.Text.Digits
import LayeredConfig.Yaml.Token.Character

/-!
# Block scalars

`YamlText.block?` reads a literal or folded scalar behind its indicator.  The rest of that line
says how many columns its lines are indented and what happens to the line breaks at its end;
without a number the first line that is not blank decides.  Lines that are indented less end
the scalar.
-/

namespace LayeredConfig.YamlText

/-- What happens to the line breaks at the end of a block scalar. -/
inductive Chomping where
  /-- None is kept. -/
  | strip
  /-- The first one is kept. -/
  | clip
  /-- All are kept. -/
  | keep

/-- A line of a block scalar without its indentation, its line break, and the line breaks of
the blank lines behind it. -/
structure BlockLine where
  content : List Char
  break? : Option Char
  blankBreaks : List Char

/-! ### The header -/

/-- Splits the sign for chomping off the front of a text. -/
def chomping? : List Char → Option (Chomping × List Char)
  | '+' :: rest => some (.keep, rest)
  | '-' :: rest => some (.strip, rest)
  | _ => none

/-- Splits the number of columns of the indentation off the front of a text, if there is one;
it is not zero. -/
def indentation? : List Char → Option (Option Nat × List Char)
  | [] => some (none, [])
  | c :: rest =>
    match Text.digit? c with
    | none => some (none, c :: rest)
    | some 0 => none
    | some n => some (some n, rest)

/-- Splits a sign and a number, which come in any order, off the front of a text. -/
def header? (text : List Char) : Option (Chomping × Option Nat × List Char) :=
  match chomping? text with
  | some (chomping, rest) => (indentation? rest).map fun (n, rest) => (chomping, n, rest)
  | none =>
    match indentation? text with
    | none => none
    | some (none, rest) => some (.clip, none, rest)
    | some (some n, rest) =>
      match chomping? rest with
      | some (chomping, rest) => some (chomping, some n, rest)
      | none => some (.clip, some n, rest)

/-! ### The lines -/

/-- Reads the blank lines at the start, whose widest has `widest` columns so far, and the
indentation of the first line that is not blank, of which `width` columns are read.  The answer
has the line breaks, the greatest width, the width of the last line and the text behind. -/
def leadingBreaks? (width widest : Nat) :
    List Char → Option (List Char × Nat × Nat × List Char)
  | [] => some ([], max width widest, width, [])
  | c :: rest =>
    if c == ' ' then leadingBreaks? (width + 1) widest rest
    else if c == '\t' then none
    else if isBreak c then
      (leadingBreaks? 0 (max width widest) rest).map fun (breaks, rest) => (c :: breaks, rest)
    else some ([], max width widest, width, c :: rest)

/-- Reads blank lines, and the next line up to `indent` columns, of which `width` are read.
The answer has the line breaks, the columns of the last line and the text behind. -/
def blankBreaks? (indent width : Nat) : List Char → Option (List Char × Nat × List Char)
  | [] => some ([], width, [])
  | c :: rest =>
    if width < indent && c == ' ' then blankBreaks? indent (width + 1) rest
    else if width < indent && c == '\t' then none
    else if isBreak c then
      (blankBreaks? indent 0 rest).map fun (breaks, rest) => (c :: breaks, rest)
    else some ([], width, c :: rest)

/-- Reads the lines from behind the indentation of the first on.  A line that takes nothing off
the text ends the reading. -/
def blockLines? (indent : Nat) (text : List Char) : Option (List BlockLine × List Char) :=
  match text.span fun c => !isBreak c with
  | (content, []) => some ([⟨content, none, []⟩], [])
  | (content, c :: rest) =>
    match blankBreaks? indent 0 rest with
    | none => none
    | some (breaks, width, rest) =>
      if width = indent ∧ rest ≠ [] then
        if rest.length < text.length then
          (blockLines? indent rest).map fun (lines, rest) => (⟨content, some c, breaks⟩ :: lines, rest)
        else none
      else some ([⟨content, some c, breaks⟩], rest)
termination_by text.length

/-! ### The text -/

/-- Whether a line starts with a blank. -/
def BlockLine.startsBlank (line : BlockLine) : Bool := line.content.head?.any isBlank

/-- What stands between a line and the next.  In a folded scalar a line feed between two lines
that do not start with a blank is a space, or nothing before blank lines. -/
def seam (folded : Bool) (line next : BlockLine) : List Char :=
  if folded && line.break? == some '\n' && !line.startsBlank && !next.startsBlank then
    if line.blankBreaks.isEmpty then [' '] else line.blankBreaks
  else line.break?.toList ++ line.blankBreaks

/-- What stands behind the last line. -/
def chomped (chomping : Chomping) (line : BlockLine) : List Char :=
  match chomping with
  | .strip => []
  | .clip => line.break?.toList
  | .keep => line.break?.toList ++ line.blankBreaks

/-- The text of lines. -/
def joined (folded : Bool) (chomping : Chomping) : List BlockLine → List Char
  | [] => []
  | [line] => line.content ++ chomped chomping line
  | line :: next :: rest =>
    line.content ++ seam folded line next ++ joined folded chomping (next :: rest)

/-- The text of a scalar that has only blank lines. -/
def blankText (chomping : Chomping) (breaks : List Char) : List Char :=
  match chomping with
  | .keep => breaks
  | _ => []

/-- Reads a scalar behind its indicator, where the collections around it leave it the columns
from `floor` on. -/
def block? (folded : Bool) (floor : Nat) (text : List Char) :
    Option (List Char × List Char) := do
  let (chomping, columns, rest) ← header? text
  let rest ← skipLineEnd? rest
  let (breaks, indent, width, rest) ← match columns with
    | some n =>
      let indent := floor - 1 + n
      (blankBreaks? indent 0 rest).map fun (breaks, rest) => (breaks, indent, rest)
    | none =>
      (leadingBreaks? 0 0 rest).map fun (breaks, widest, rest) =>
        (breaks, max widest (max floor 1), rest)
  if width = indent ∧ rest ≠ [] then
    let (lines, rest) ← blockLines? indent rest
    return (breaks ++ joined folded chomping lines, rest)
  else
    return (blankText chomping breaks, rest)

end LayeredConfig.YamlText
