import LayeredConfig.Yaml.Node.Label
import LayeredConfig.Yaml.Node.Reader
import LayeredConfig.Yaml.Scalar
import LayeredConfig.Yaml.Token.Reader

/-!
# Reading YAML texts

`Yaml.read?` reads a text that holds at most one YAML document.  The value of an alias is the
value of the anchored node; there are bounds on how deep collections nest and on how many
aliases are followed.  Keys may be repeated in what is read: `Yaml.parse?` refuses such a text.
-/

namespace LayeredConfig.Yaml

/-- A computation that can fail and counts down how many aliases may still be followed. -/
abbrev Following := StateT Nat Option

/-- How many aliases may be followed for each unit of a document's size. -/
def aliasesPerUnit : Nat := 100

/-- The node that an alias stands for, or the node itself.  Where several nodes have a number,
the last one counts. -/
def followed (anchored : List (Nat × YamlNode Nat)) (node : YamlNode Nat) :
    Following (YamlNode Nat) := do
  match node with
  | .alias n =>
    let left ← get
    if left = 0 then failure
    else
      set (left - 1)
      return (← (anchored.reverse.lookup n : Option (YamlNode Nat)))
  | _ => return node

/-- The value of a node in which collections nest at most `depth` deep. -/
def valueOf (anchored : List (Nat × YamlNode Nat)) (depth : Nat) (node : YamlNode Nat) :
    Following Yaml := do
  match ← followed anchored node, depth with
  | .scalar properties isPlain text, _ => ofScalar? properties.tag isPlain text
  | .sequence properties items, depth + 1 =>
    let items ← items.mapM (valueOf anchored depth)
    return ofCollection properties.tag (.sequence items)
  | .mapping properties entries, depth + 1 =>
    let entries ← entries.mapM fun (key, value) => do
      let key ← valueOf anchored depth key
      return (key, ← valueOf anchored depth value)
    return ofCollection properties.tag (.mapping entries)
  | _, _ => failure

/-- The value of a document. -/
def ofDocument? (node : YamlNode Nat) : Option Yaml :=
  (valueOf node.anchored YamlNode.maxDepth node).run' (aliasesPerUnit * node.size)

/-- The value that a text holds; keys may be repeated. -/
def read? (text : String) : Option Yaml := do
  ofDocument? (← YamlNode.numbered? (← YamlNode.document? (← YamlToken.tokens? text)))

/-- The value that a text holds, if no key is repeated. -/
def parse? (text : String) : Option Yaml := (read? text).filter hasDistinctKeys

end LayeredConfig.Yaml
