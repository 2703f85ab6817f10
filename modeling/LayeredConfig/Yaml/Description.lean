import LayeredConfig.Tree.Description
import LayeredConfig.Yaml.Basic

/-!
# Describing YAML values

`Yaml.detail` writes a YAML value as it appears in messages: each value inside the name of its
kind, except that a key which is a boolean, a number or a string stands without it.
-/

namespace LayeredConfig

/-- Numbers as YAML writes them: an exponent from `1e16` on and below `1e-5`, a mark on whole
numbers, and words that start with a point. -/
def NumberLayout.yaml : NumberLayout where
  positional := some (-5, 15)
  wholeMark := ".0"
  tie := .even
  nan := ".nan"
  infinity := ".inf"

namespace Yaml

/-- The word for a boolean. -/
def boolText (b : Bool) : String := if b then "true" else "false"

/-- The text of a boolean, a number or a string, without the name of its kind. -/
def bare? : Yaml → Option String
  | .bool b => some (boolText b)
  | .integer i => some (toString i.val)
  | .float x => some (NumberLayout.yaml.text x)
  | .string s => some (Text.quoted s)
  | _ => none

/-- A text inside the name of its kind. -/
def inKind (kind text : String) : String := kind ++ "(" ++ text ++ ")"

mutual

/-- The whole value, each part inside the name of its kind. -/
def detail : Yaml → String
  | .null => "Null"
  | .bool b => inKind "Bool" (boolText b)
  | .integer i => inKind "Number" (toString i.val)
  | .float x => inKind "Number" (NumberLayout.yaml.text x)
  | .string s => inKind "String" (Text.quoted s)
  | .sequence items => "Sequence " ++ Tree.enclosed "[" "]" (detailItems items)
  | .mapping entries => "Mapping " ++ Tree.enclosed "\x7b" "\x7d" (detailEntries entries)
  | .tagged tag value =>
    "TaggedValue " ++ Tree.enclosed "\x7b " " \x7d" ["tag: !" ++ tag, "value: " ++ value.detail]

/-- The details of the items of a sequence. -/
def detailItems : List Yaml → List String
  | [] => []
  | y :: rest => y.detail :: detailItems rest

/-- The details of the entries of a mapping. -/
def detailEntries : List (Yaml × Yaml) → List String
  | [] => []
  | (key, value) :: rest =>
    ((bare? key).getD key.detail ++ ": " ++ value.detail) :: detailEntries rest

end

end Yaml

end LayeredConfig
