import LayeredConfig.Yaml.Token.Character

/-!
# YAML tokens

`YamlToken` is the type of the pieces that a YAML text is cut into.  Collections of both styles
have tokens for their start and end: those of block collections come from the indentation.

A `YamlTag` is a sequence of bytes: in a document they can be written one by one, and what they
make need not be text.  A tag that starts with the mark `!` is local to its document;
`YamlTag.localName?` is the name that stands behind the mark.

A `Cursor` is a place in a text: what follows it, its line and column, and the number of bytes
before it.  `Cursor.moveTo` moves it forward to where a given rest starts.
-/

namespace LayeredConfig

/-! ### Tags -/

/-- A tag, by its bytes in UTF-8. -/
structure YamlTag where
  bytes : List UInt8
  deriving DecidableEq

namespace YamlTag

/-- The tag that a text is. -/
def ofString (text : String) : YamlTag := ⟨text.toList.flatMap String.utf8EncodeChar⟩

/-- The tag of the bytes before the first zero byte. -/
def upToZero (bytes : List UInt8) : YamlTag := ⟨bytes.takeWhile (· != 0)⟩

/-- A tag behind another. -/
def append (start suffix : YamlTag) : YamlTag := ⟨start.bytes ++ suffix.bytes⟩

instance : Append YamlTag := ⟨append⟩

/-- The mark of local tags. -/
def mark : UInt8 := '!'.toUInt8

/-- The tag that is the mark alone. -/
def bare : YamlTag := ⟨[mark]⟩

/-- Whether a tag is local to its document. -/
def isLocal (tag : YamlTag) : Bool := tag.bytes.head? == some mark

/-- The text of bytes, if they are one. -/
def text? (bytes : List UInt8) : Option String := String.fromUTF8? ⟨bytes.toArray⟩

/-- The name of a local tag, if it is text: what stands behind the mark, or the mark if it stands
alone. -/
def localName? (tag : YamlTag) : Option String :=
  if tag.isLocal then text? (if tag = bare then tag.bytes else tag.bytes.drop 1) else none

end YamlTag

/-! ### Tokens -/

/-- A piece of a YAML text. -/
inductive YamlToken where
  /-- The directive that names the version of YAML. -/
  | versionDirective (major minor : Nat)
  /-- The directive that says what a tag handle stands for. -/
  | tagDirective (handle : String) (start : YamlTag)
  | documentStart
  | documentEnd
  | blockSequenceStart
  | blockMappingStart
  | blockEnd
  | flowSequenceStart
  | flowSequenceEnd
  | flowMappingStart
  | flowMappingEnd
  /-- The hyphen before an item of a block sequence. -/
  | blockEntry
  /-- The comma between the items of a flow collection. -/
  | flowEntry
  /-- What stands before a key, or the place before a key without a mark. -/
  | key
  /-- The colon between a key and its value. -/
  | value
  | alias (name : String)
  | anchor (name : String)
  /-- A tag; one without a handle has an empty handle. -/
  | tag (handle : String) (suffix : YamlTag)
  | scalar (isPlain : Bool) (text : String)
  deriving DecidableEq

/-! ### Places -/

/-- A place in a text. -/
structure Cursor where
  rest : List Char
  line : Nat
  column : Nat
  /-- The number of bytes before the place, in UTF-8. -/
  offset : Nat

namespace Cursor

/-- The start of a text. -/
def start (text : List Char) : Cursor := ⟨text, 0, 0, 0⟩

/-- The place behind the next character. -/
def advance (c : Cursor) : Cursor :=
  match c.rest with
  | [] => c
  | x :: rest =>
    if YamlText.isBreak x then ⟨rest, c.line + 1, 0, c.offset + x.utf8Size⟩
    else ⟨rest, c.line, c.column + 1, c.offset + x.utf8Size⟩

/-- The place `n` characters further on. -/
def skip : Nat → Cursor → Cursor
  | 0, c => c
  | n + 1, c => skip n c.advance

/-- The place where `rest`, an end of what follows, starts. -/
def moveTo (c : Cursor) (rest : List Char) : Cursor := skip (c.rest.length - rest.length) c

end Cursor

end LayeredConfig
