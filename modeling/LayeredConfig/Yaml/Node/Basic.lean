import LayeredConfig.Yaml.Token.Basic

/-!
# YAML nodes

A `YamlNode` is a part of a YAML document as it is written: scalars are texts, tags stand beside
the nodes, and a node that is repeated stands as an alias of an anchored one.  `label` is the
type of the names of anchors.  `YamlNode.anchored` lists the anchored nodes.
-/

namespace LayeredConfig

/-- What can stand in front of a node. -/
structure YamlProperties (label : Type) where
  anchor : Option label := none
  tag : Option YamlTag := none

/-- A node of a YAML document. -/
inductive YamlNode (label : Type) where
  | alias (name : label)
  | scalar (properties : YamlProperties label) (isPlain : Bool) (text : String)
  | sequence (properties : YamlProperties label) (items : List (YamlNode label))
  | mapping (properties : YamlProperties label)
      (entries : List (YamlNode label × YamlNode label))

namespace YamlNode

variable {label : Type}

/-- The scalar that stands for nothing written. -/
def empty (properties : YamlProperties label) : YamlNode label := .scalar properties true ""

/-- The anchor of a node. -/
def anchor? : YamlNode label → Option label
  | .alias _ => none
  | .scalar properties .. => properties.anchor
  | .sequence properties _ => properties.anchor
  | .mapping properties _ => properties.anchor

mutual

/-- The size of a node: one for a scalar or alias, and two more than its parts for a
collection. -/
def size : YamlNode label → Nat
  | .alias _ | .scalar .. => 1
  | .sequence _ items => 2 + sizeItems items
  | .mapping _ entries => 2 + sizeEntries entries

/-- The size of the items of a sequence. -/
def sizeItems : List (YamlNode label) → Nat
  | [] => 0
  | w :: rest => w.size + sizeItems rest

/-- The size of the entries of a mapping. -/
def sizeEntries : List (YamlNode label × YamlNode label) → Nat
  | [] => 0
  | (key, value) :: rest => key.size + value.size + sizeEntries rest

end

mutual

/-- The anchored nodes in a node, with their anchors, in document order. -/
def anchored (w : YamlNode label) : List (label × YamlNode label) :=
  (w.anchor?.map fun a => (a, w)).toList ++ match w with
    | .alias _ | .scalar .. => []
    | .sequence _ items => anchoredItems items
    | .mapping _ entries => anchoredEntries entries

/-- The anchored nodes in the items of a sequence. -/
def anchoredItems : List (YamlNode label) → List (label × YamlNode label)
  | [] => []
  | w :: rest => anchored w ++ anchoredItems rest

/-- The anchored nodes in the entries of a mapping. -/
def anchoredEntries :
    List (YamlNode label × YamlNode label) → List (label × YamlNode label)
  | [] => []
  | (key, value) :: rest => anchored key ++ anchored value ++ anchoredEntries rest

end

end YamlNode

end LayeredConfig
