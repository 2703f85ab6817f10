import LayeredConfig.Yaml.Node.Basic

/-!
# Reading YAML nodes from tokens

`YamlNode.document?` reads the only document of a list of tokens.  `YamlNode.node?` reads a node;
the functions before it read the items and entries of the four kinds of collections, given a
function that reads a node inside them.
-/

namespace LayeredConfig.YamlNode

/-- Where a node stands. -/
inductive Placement where
  /-- Inside a flow collection. -/
  | flow
  /-- Anywhere else but in a block mapping. -/
  | block
  /-- In a block mapping, where a sequence does not have to be indented. -/
  | member
  deriving DecidableEq

/-- The tokens that have not been read. -/
abbrev Tokens := List YamlToken

/-- A function that reads a node. -/
abbrev NodeReader := Placement → Tokens → Option (YamlNode String × Tokens)

/-- Reads a node, or an empty one without taking a token if the next token is among `ends`. -/
def optionalNode? (node : NodeReader) (placement : Placement) (ends : List YamlToken)
    (tokens : Tokens) : Option (YamlNode String × Tokens) :=
  match tokens with
  | [] => node placement []
  | token :: rest =>
    if token ∈ ends then some (.empty {}, token :: rest) else node placement (token :: rest)

/-- Reads the value of an entry, which is empty if there is no colon. -/
def optionalValue? (node : NodeReader) (placement : Placement) (ends : List YamlToken)
    (tokens : Tokens) : Option (YamlNode String × Tokens) :=
  match tokens with
  | .value :: rest => optionalNode? node placement ends rest
  | _ => some (.empty {}, tokens)

/-! ### Block collections -/

/-- Reads the items of a block sequence and its end. -/
def blockItems? (node : NodeReader) (tokens : Tokens) :
    Option (List (YamlNode String) × Tokens) :=
  match tokens with
  | .blockEnd :: rest => some ([], rest)
  | .blockEntry :: rest =>
    match optionalNode? node .block [.blockEntry, .blockEnd] rest with
    | none => none
    | some (item, after) =>
      if after.length ≤ rest.length then
        (blockItems? node after).map fun (items, rest) => (item :: items, rest)
      else none
  | _ => none
termination_by tokens.length

/-- Reads the items of a block sequence that is not indented in its mapping. -/
def unindentedItems? (node : NodeReader) (tokens : Tokens) :
    Option (List (YamlNode String) × Tokens) :=
  match tokens with
  | .blockEntry :: rest =>
    match optionalNode? node .block [.blockEntry, .key, .value, .blockEnd] rest with
    | none => none
    | some (item, after) =>
      if after.length ≤ rest.length then
        (unindentedItems? node after).map fun (items, rest) => (item :: items, rest)
      else none
  | _ => some ([], tokens)
termination_by tokens.length

/-- Reads an entry of a block mapping behind the token of its key. -/
def blockMember? (node : NodeReader) (tokens : Tokens) :
    Option ((YamlNode String × YamlNode String) × Tokens) := do
  let ends := [YamlToken.key, .value, .blockEnd]
  let (key, rest) ← optionalNode? node .member ends tokens
  let (value, rest) ← optionalValue? node .member ends rest
  return ((key, value), rest)

/-- Reads the entries of a block mapping and its end. -/
def blockMembers? (node : NodeReader) (tokens : Tokens) :
    Option (List (YamlNode String × YamlNode String) × Tokens) :=
  match tokens with
  | .blockEnd :: rest => some ([], rest)
  | .key :: rest =>
    match blockMember? node rest with
    | none => none
    | some (entry, after) =>
      if after.length ≤ rest.length then
        (blockMembers? node after).map fun (entries, rest) => (entry :: entries, rest)
      else none
  | _ => none
termination_by tokens.length

/-! ### Flow collections -/

/-- Reads parts with commas between them and the end of their collection; a comma may follow
the last part. -/
def separated? {α : Type} (part : List YamlToken → Option (α × Tokens)) (close : YamlToken)
    (tokens : Tokens) : Option (List α × Tokens) :=
  match tokens with
  | [] => none
  | token :: rest =>
    if token = close then some ([], rest)
    else
      match part (token :: rest) with
      | some (x, .flowEntry :: after) =>
        if after.length ≤ rest.length then
          (separated? part close after).map fun (xs, rest) => (x :: xs, rest)
        else none
      | some (x, last :: after) => if last = close then some ([x], after) else none
      | _ => none
termination_by tokens.length

/-- Reads the key of a mapping that stands as an item of a flow sequence.  An empty key takes
the token behind it along. -/
def pairKey? (node : NodeReader) (tokens : Tokens) : Option (YamlNode String × Tokens) :=
  match tokens with
  | .value :: rest | .flowEntry :: rest | .flowSequenceEnd :: rest => some (.empty {}, rest)
  | _ => node .flow tokens

/-- Reads an item of a flow sequence: a node, or a single entry of a mapping. -/
def flowItem? (node : NodeReader) (tokens : Tokens) : Option (YamlNode String × Tokens) :=
  match tokens with
  | .key :: rest => do
    let (key, rest) ← pairKey? node rest
    let (value, rest) ← optionalValue? node .flow [.flowEntry, .flowSequenceEnd] rest
    return (.mapping {} [(key, value)], rest)
  | _ => node .flow tokens

/-- Reads an entry of a flow mapping; one without a mark before its key has no value. -/
def flowMember? (node : NodeReader) (tokens : Tokens) :
    Option ((YamlNode String × YamlNode String) × Tokens) :=
  match tokens with
  | .key :: rest => do
    let (key, rest) ← optionalNode? node .flow [.value, .flowEntry, .flowMappingEnd] rest
    let (value, rest) ← optionalValue? node .flow [.flowEntry, .flowMappingEnd] rest
    return ((key, value), rest)
  | _ => (node .flow tokens).map fun (key, rest) => ((key, .empty {}), rest)

/-! ### Nodes -/

/-- What the tag handles stand for. -/
abbrev TagHandles := List (String × YamlTag)

/-- The tag that a handle and a suffix make; without a handle it is the suffix. -/
def tag? (handles : TagHandles) (handle : String) (suffix : YamlTag) : Option YamlTag :=
  if handle == "" then some suffix else (handles.lookup handle).map (· ++ suffix)

/-- Reads an anchor and a tag, in any order. -/
def properties? (handles : TagHandles) (tokens : Tokens) :
    Option (YamlProperties String × Tokens) :=
  match tokens with
  | .anchor name :: .tag handle suffix :: rest | .tag handle suffix :: .anchor name :: rest =>
    (tag? handles handle suffix).map fun tag => (⟨some name, some tag⟩, rest)
  | .anchor name :: rest => some (⟨some name, none⟩, rest)
  | .tag handle suffix :: rest =>
    (tag? handles handle suffix).map fun tag => (⟨none, some tag⟩, rest)
  | _ => some ({}, tokens)

/-- Whether a node has properties. -/
def hasProperties (properties : YamlProperties String) : Bool :=
  properties.anchor.isSome || properties.tag.isSome

/-- Reads a node in which collections nest at most `depth` deep. -/
def node? (handles : TagHandles) (depth : Nat) : NodeReader := fun placement tokens =>
  let inside : Option NodeReader := match depth with
    | 0 => none
    | depth + 1 => some (node? handles depth)
  match tokens with
  | .alias name :: rest => some (.alias name, rest)
  | _ => do
    let (properties, rest) ← properties? handles tokens
    let isBlock := placement != .flow
    match rest with
    | .scalar isPlain text :: rest =>
      return (.scalar properties isPlain text, rest)
    | .flowSequenceStart :: rest =>
      let (items, rest) ← separated? (flowItem? (← inside)) .flowSequenceEnd rest
      return (.sequence properties items, rest)
    | .flowMappingStart :: rest =>
      let (entries, rest) ← separated? (flowMember? (← inside)) .flowMappingEnd rest
      return (.mapping properties entries, rest)
    | token :: rest =>
      if isBlock && token == .blockSequenceStart then
        let (items, rest) ← blockItems? (← inside) rest
        return (.sequence properties items, rest)
      else if isBlock && token == .blockMappingStart then
        let (entries, rest) ← blockMembers? (← inside) rest
        return (.mapping properties entries, rest)
      else if placement == .member && token == .blockEntry then
        let (items, rest) ← unindentedItems? (← inside) (token :: rest)
        return (.sequence properties items, rest)
      else if hasProperties properties then
        return (.empty properties, token :: rest)
      else none
    | [] => if hasProperties properties then some (.empty properties, []) else none

/-! ### Documents -/

/-- The greatest depth to which collections nest. -/
def maxDepth : Nat := 128

/-- What the tag handles stand for without a directive. -/
def defaultHandles : TagHandles :=
  [("!", .bare), ("!!", .ofString "tag:yaml.org,2002:")]

/-- Whether a document without its own start can begin with a token. -/
def startsBare : YamlToken → Bool
  | .versionDirective .. | .tagDirective .. | .documentStart => false
  | _ => true

/-- Whether a document is empty when a token follows its start. -/
def endsDocument : YamlToken → Bool
  | .versionDirective .. | .tagDirective .. | .documentStart | .documentEnd => true
  | _ => false

/-- Reads directives, given whether a version and which handles have been declared.  There is at
most one version, which is 1.1 or 1.2, and no handle is declared twice. -/
def directives? (hasVersion : Bool) (handles : TagHandles) :
    List YamlToken → Option (TagHandles × Tokens)
  | .versionDirective major minor :: rest =>
    if hasVersion || major != 1 || (minor != 1 && minor != 2) then none
    else directives? true handles rest
  | .tagDirective handle start :: rest =>
    if (handles.lookup handle).isSome then none
    else directives? hasVersion (handles ++ [(handle, start)]) rest
  | tokens => some (handles, tokens)

/-- Reads the content of a document behind its start. -/
def content? (handles : TagHandles) (tokens : Tokens) : Option (YamlNode String × Tokens) :=
  let handles := handles ++ defaultHandles
  match tokens with
  | [] => some (.empty {}, [])
  | token :: rest =>
    if endsDocument token then some (.empty {}, token :: rest)
    else node? handles maxDepth .block (token :: rest)

/-- Reads a document. -/
def start? (tokens : Tokens) : Option (YamlNode String × Tokens) :=
  match tokens with
  | [] => some (.empty {}, [])
  | token :: rest =>
    if startsBare token then node? defaultHandles maxDepth .block (token :: rest)
    else
      match directives? false [] (token :: rest) with
      | some (handles, .documentStart :: rest) => content? handles rest
      | _ => none

/-- The only document of a list of tokens; without tokens it is empty. -/
def document? (tokens : Tokens) : Option (YamlNode String) :=
  match start? tokens with
  | none => none
  | some (node, rest) =>
    if (rest.dropWhile (· == .documentEnd)).isEmpty then some node else none

end LayeredConfig.YamlNode
