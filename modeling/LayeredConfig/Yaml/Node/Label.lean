import LayeredConfig.Entries
import LayeredConfig.Yaml.Node.Basic

/-!
# Numbering the anchors of a document

`YamlNode.numbered?` replaces the names of anchors by numbers.  An anchor gets the number of
names that have been used before it, whether or not its own is among them, and an alias gets
the number that its name had last.  So a name that is used again leaves a number out of step:
the next new name gets the same number.
-/

namespace LayeredConfig.YamlNode

/-- The numbers of the names used so far. -/
abbrev Labels := Entries Nat

/-- The properties of a node with a number for its anchor. -/
def numberProperties (properties : YamlProperties String) (labels : Labels) :
    YamlProperties Nat × Labels :=
  match properties.anchor with
  | none => (⟨none, properties.tag⟩, labels)
  | some name =>
    (⟨some labels.length, properties.tag⟩, Entries.insert name labels.length labels)

mutual

/-- A node with numbers for its anchors and aliases, and the numbers used behind it. -/
def number? (labels : Labels) : YamlNode String → Option (YamlNode Nat × Labels)
  | .alias name => (Entries.find? name labels).map fun n => (.alias n, labels)
  | .scalar properties isPlain text =>
    let (properties, labels) := numberProperties properties labels
    some (.scalar properties isPlain text, labels)
  | .sequence properties items =>
    let (properties, labels) := numberProperties properties labels
    (numberItems? labels items).map fun (items, labels) => (.sequence properties items, labels)
  | .mapping properties entries =>
    let (properties, labels) := numberProperties properties labels
    (numberEntries? labels entries).map fun (entries, labels) =>
      (.mapping properties entries, labels)

/-- The items of a sequence with numbers. -/
def numberItems? (labels : Labels) :
    List (YamlNode String) → Option (List (YamlNode Nat) × Labels)
  | [] => some ([], labels)
  | node :: rest => do
    let (node, labels) ← number? labels node
    let (rest, labels) ← numberItems? labels rest
    return (node :: rest, labels)

/-- The entries of a mapping with numbers. -/
def numberEntries? (labels : Labels) :
    List (YamlNode String × YamlNode String) → Option (List (YamlNode Nat × YamlNode Nat) × Labels)
  | [] => some ([], labels)
  | (key, value) :: rest => do
    let (key, labels) ← number? labels key
    let (value, labels) ← number? labels value
    let (rest, labels) ← numberEntries? labels rest
    return ((key, value) :: rest, labels)

end

/-- A document with numbers for its anchors and aliases; every alias must have an anchor before
it. -/
def numbered? (node : YamlNode String) : Option (YamlNode Nat) := (number? [] node).map (·.1)

end LayeredConfig.YamlNode
