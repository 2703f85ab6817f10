import LayeredConfig.Yaml.Token.Block
import LayeredConfig.Yaml.Token.Mark
import LayeredConfig.Yaml.Token.Plain
import LayeredConfig.Yaml.Token.Quoted

/-!
# Cutting YAML texts into tokens

`YamlToken.tokens?` cuts a text into its tokens.  Two things are not in the text but in its
layout.  Block collections start where a line is indented more than the collections around it,
and end where one is indented less; `Progress.columns` holds the columns of those that are
open.  And a key has no mark in front of it: whatever may turn out to be a key is kept as a
`PendingKey`, and the token before a key is put in its place when the colon is met, which has to
be in the same line.
-/

namespace LayeredConfig.YamlToken

/-- A place where a key may have started. -/
structure PendingKey where
  /-- The number of tokens before it. -/
  tokens : Nat
  /-- Whether nothing but a key can stand there. -/
  required : Bool
  line : Nat
  column : Nat
  offset : Nat

/-- How far a text has been cut. -/
structure Progress where
  cursor : Cursor
  tokens : Array YamlToken
  /-- The columns of the block collections that are open, the innermost first. -/
  columns : List Nat
  /-- Whether a key may start at the cursor. -/
  keyAllowed : Bool
  /-- The last place where a key may have started, in the innermost collection. -/
  pending : Option PendingKey
  /-- The same for the places around each flow collection that is open, the innermost first. -/
  outer : List (Option PendingKey)

namespace Progress

/-- The start of a text. -/
def start (text : List Char) : Progress := ⟨.start text, #[], [], true, none, []⟩

/-- Whether a flow collection is open. -/
def inFlow (p : Progress) : Bool := !p.outer.isEmpty

/-- The least column of what belongs to the innermost block collection. -/
def floor (p : Progress) : Nat :=
  match p.columns with
  | [] => 0
  | column :: _ => column + 1

/-- Adds a token. -/
def add (p : Progress) (token : YamlToken) : Progress :=
  { p with tokens := p.tokens.push token }

/-- Adds a token of `count` characters and moves on. -/
def take (p : Progress) (token : YamlToken) (count : Nat) : Progress :=
  { p.add token with cursor := p.cursor.skip count }

/-- Adds a token and moves on to where `rest` starts. -/
def takeTo (p : Progress) (token : YamlToken) (rest : List Char) : Progress :=
  { p.add token with cursor := p.cursor.moveTo rest }

/-- Says whether a key may start at the cursor. -/
def allowKey (p : Progress) (allowed : Bool) : Progress := { p with keyAllowed := allowed }

/-! ### Indentation -/

/-- Ends the block collections whose columns are at least `floor`; none is ended inside a flow
collection. -/
def closeFrom (p : Progress) (floor : Nat) : Progress :=
  if p.inFlow then p
  else
    let ended := (p.columns.takeWhile fun column => decide (floor ≤ column)).length
    { p with
      tokens := p.tokens ++ List.replicate ended YamlToken.blockEnd
      columns := p.columns.drop ended }

/-- Starts a block collection at a column, with its token behind `count` others, unless one is
open there or a flow collection is open. -/
def openAt (p : Progress) (column count : Nat) (token : YamlToken) : Progress :=
  if p.inFlow || decide (column < p.floor) then p
  else
    { p with
      tokens := p.tokens.insertIdxIfInBounds count token
      columns := column :: p.columns }

/-- Starts a block collection at the cursor. -/
def openHere (p : Progress) (token : YamlToken) : Progress :=
  p.openAt p.cursor.column p.tokens.size token

/-! ### Keys -/

/-- The greatest number of bytes between the start of a key and its colon. -/
def maxKeyLength : Nat := 1024

/-- A pending key when the cursor has moved on: it is dropped when its line or its length is
exceeded, which is refused if it is required. -/
def refresh? (cursor : Cursor) : Option PendingKey → Option (Option PendingKey)
  | none => some none
  | some place =>
    if place.line < cursor.line || place.offset + maxKeyLength < cursor.offset then
      if place.required then none else some none
    else some (some place)

/-- Drops the pending keys that can no longer be keys. -/
def dropStale? (p : Progress) : Option Progress := do
  let pending ← refresh? p.cursor p.pending
  let outer ← p.outer.mapM (refresh? p.cursor)
  return { p with pending, outer }

/-- Gives up the pending key of the innermost collection, which is refused if it is required. -/
def dropKey? (p : Progress) : Option Progress :=
  if p.pending.any (·.required) then none else some { p with pending := none }

/-- Marks the cursor as a place where a key may start, if one may. -/
def markKey? (p : Progress) : Option Progress :=
  if p.keyAllowed then do
    let p ← p.dropKey?
    let required := !p.inFlow && p.columns.head? == some p.cursor.column
    let place := ⟨p.tokens.size, required, p.cursor.line, p.cursor.column, p.cursor.offset⟩
    return { p with pending := some place }
  else some p

/-! ### Tokens -/

/-- Ends all block collections, before a token that stands between documents. -/
def leaveDocument? (p : Progress) : Option Progress := do
  return (← (p.closeFrom 0).dropKey?).allowKey false

/-- Takes a directive. -/
def takeDirective? (p : Progress) (rest : List Char) : Option Progress := do
  let p ← p.leaveDocument?
  let (token, rest) ← YamlText.directive? rest
  return p.takeTo token rest

/-- Takes the start or end of a document. -/
def takeIndicator? (p : Progress) (token : YamlToken) : Option Progress := do
  return (← p.leaveDocument?).take token 3

/-- Takes the start of a flow collection. -/
def takeFlowStart? (p : Progress) (token : YamlToken) : Option Progress := do
  let p ← p.markKey?
  return ({ p with pending := none, outer := p.pending :: p.outer }.allowKey true).take token 1

/-- Takes the end of a flow collection. -/
def takeFlowEnd? (p : Progress) (token : YamlToken) : Option Progress := do
  let p ← p.dropKey?
  let p := match p.outer with
    | [] => p
    | pending :: outer => { p with pending, outer }
  return (p.allowKey false).take token 1

/-- Takes the comma between the items of a flow collection. -/
def takeFlowEntry? (p : Progress) : Option Progress := do
  return ((← p.dropKey?).allowKey true).take .flowEntry 1

/-- Starts a block collection at the cursor, where a key has to be allowed. -/
def openEntry? (p : Progress) (token : YamlToken) : Option Progress :=
  if p.inFlow then some p
  else if p.keyAllowed then some (p.openHere token)
  else none

/-- Takes the hyphen before an item. -/
def takeBlockEntry? (p : Progress) : Option Progress := do
  let p ← (← p.openEntry? .blockSequenceStart).dropKey?
  return (p.allowKey true).take .blockEntry 1

/-- Takes the mark before a key. -/
def takeKey? (p : Progress) : Option Progress := do
  let p ← (← p.openEntry? .blockMappingStart).dropKey?
  return (p.allowKey !p.inFlow).take .key 1

/-- Takes the colon before a value.  The pending key, if there is one, is a key now. -/
def takeValue? (p : Progress) : Option Progress :=
  match p.pending with
  | some place =>
    let p := { p with
      tokens := p.tokens.insertIdxIfInBounds place.tokens .key
      pending := none }
    some (((p.openAt place.column place.tokens .blockMappingStart).allowKey false).take .value 1)
  | none => do
    let p ← p.openEntry? .blockMappingStart
    return (p.allowKey !p.inFlow).take .value 1

/-- The token of a scalar that is not plain. -/
def quotedScalar (text : List Char) : YamlToken := .scalar false (.ofList text)

/-- Takes a part of a node that may be the start of a key. -/
def takeNode? {α : Type} (p : Progress) (token : α → YamlToken) (read : Option (α × List Char)) :
    Option Progress := do
  let p ← p.markKey?
  let (x, rest) ← read
  return (p.allowKey false).takeTo (token x) rest

/-- Takes a scalar without quotes. -/
def takePlain? (p : Progress) : Option Progress := do
  let p ← p.markKey?
  let (text, broken, rest) ← YamlText.plain? p.floor p.inFlow .none p.cursor.rest
  return (p.allowKey broken).takeTo (.scalar true (.ofList text)) rest

/-- Takes a block scalar. -/
def takeBlock? (p : Progress) (folded : Bool) (rest : List Char) : Option Progress := do
  let p ← p.dropKey?
  let (text, rest) ← YamlText.block? folded p.floor rest
  return (p.allowKey true).takeTo (quotedScalar text) rest

/-- Takes the token that starts with `c` and goes on in `rest`. -/
def take? (p : Progress) (c : Char) (rest : List Char) : Option Progress :=
  if p.cursor.column == 0 && c == '%' then p.takeDirective? rest
  else if p.cursor.column == 0 && YamlText.atDocumentIndicator (c :: rest) then
    p.takeIndicator? (if c == '-' then .documentStart else .documentEnd)
  else
    let standsAlone := YamlText.atSpace rest
    match c with
    | '[' => p.takeFlowStart? .flowSequenceStart
    | '\x7b' => p.takeFlowStart? .flowMappingStart
    | ']' => p.takeFlowEnd? .flowSequenceEnd
    | '\x7d' => p.takeFlowEnd? .flowMappingEnd
    | ',' => p.takeFlowEntry?
    | '-' => if standsAlone then p.takeBlockEntry? else p.takePlain?
    | '?' => if p.inFlow || standsAlone then p.takeKey? else p.takePlain?
    | ':' => if p.inFlow || standsAlone then p.takeValue? else p.takePlain?
    | '*' => p.takeNode? .alias (YamlText.name? rest)
    | '&' => p.takeNode? .anchor (YamlText.name? rest)
    | '!' => p.takeNode? id (YamlText.tag? p.inFlow rest)
    | '\x27' => p.takeNode? quotedScalar (YamlText.single? .none rest)
    | '"' => p.takeNode? quotedScalar (YamlText.double? .none rest)
    | '|' => if p.inFlow then none else p.takeBlock? false rest
    | '>' => if p.inFlow then none else p.takeBlock? true rest
    | '%' | '@' | '\x60' | '#' | '\t' => none
    | _ => p.takePlain?

/-! ### Texts -/

/-- One character more than what has been counted behind it. -/
def counted (behind : Bool × Nat) : Bool × Nat := (behind.1, behind.2 + 1)

/-- The number of characters of white space, comments and, at the start of lines, byte order
marks in front of a text.  A tab is counted only where it cannot be taken for indentation.  A
line break lets a key start outside of flow collections; the answer says first whether one
may. -/
def spaceBefore (inFlow keyAllowed inComment : Bool) (column : Nat) : List Char → Bool × Nat
  | [] => (keyAllowed, 0)
  | c :: rest =>
    if YamlText.isBreak c then
      counted (spaceBefore inFlow (keyAllowed || !inFlow) false 0 rest)
    else if inComment || c == '#' then
      counted (spaceBefore inFlow keyAllowed true (column + 1) rest)
    else if c == ' ' || (c == '\t' && (inFlow || !keyAllowed))
        || (c == YamlText.byteOrderMark && column == 0) then
      counted (spaceBefore inFlow keyAllowed false (column + 1) rest)
    else (keyAllowed, 0)

/-- Moves on to the next token, and ends the block collections that it does not belong to. -/
def reach? (p : Progress) : Option Progress := do
  let (allowed, count) := spaceBefore p.inFlow p.keyAllowed false p.cursor.column p.cursor.rest
  let p ← { p with keyAllowed := allowed, cursor := p.cursor.skip count }.dropStale?
  return p.closeFrom (p.cursor.column + 1)

/-- Cuts the rest of a text of `size` bytes.  A token that does not move on in the text
ends the reading. -/
def run? (size : Nat) (p : Progress) : Option Progress :=
  match p.reach? with
  | none => none
  | some q =>
    match q.cursor.rest with
    | [] => (q.closeFrom 0).dropKey?
    | c :: rest =>
      match q.take? c rest with
      | none => none
      | some r =>
        if p.cursor.offset < r.cursor.offset ∧ r.cursor.offset ≤ size then run? size r else none
termination_by size - p.cursor.offset

end Progress

/-- The tokens of a text. -/
def tokens? (text : String) : Option (List YamlToken) := do
  let chars ← YamlText.prepare? text.toList
  let p ← (Progress.start chars).run? (chars.foldl (fun size c => size + c.utf8Size) 0)
  return p.tokens.toList

end LayeredConfig.YamlToken
