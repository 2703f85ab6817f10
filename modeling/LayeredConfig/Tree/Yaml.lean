import LayeredConfig.Datum
import LayeredConfig.Yaml.Description

/-!
# Trees and YAML values

`Tree.ofYaml` is the tree of a YAML value.  There is one exactly when no part of the value is
under a tag and every key is a string; if not, the first part in document order that is not
accepted is the reason.

`Yaml.toDatum` is the datum that a YAML value is offered as.  This is decided by the serializer
library for YAML and not here: the function follows the documented behaviour of that library.
-/

namespace LayeredConfig

/-- Why a YAML value has no tree. -/
inductive YamlRejection where
  /-- The key of a mapping is not a string. -/
  | nonStringKey (key : Yaml)
  /-- A number is neither a signed word nor near a float. -/
  | number (value : Yaml)
  /-- A value stands under a tag. -/
  | tagged (tag : String)

/-- The wording of a rejection. -/
def YamlRejection.message : YamlRejection → String
  | .nonStringKey key => "Mapping key must be a string, got " ++ key.detail
  | .number value => "Unsupported config value: number " ++ value.bare?.getD value.detail
  | .tagged tag => "Unsupported config value: tagged value !" ++ tag

namespace Yaml

/-- The signed word that a number is. -/
def int64? : Yaml → Option Int64
  | .integer i => i.toInt64?
  | _ => none

/-- The float that a number is, or the nearest one to it. -/
def binary64? : Yaml → Option Binary64
  | .integer i => some (.ofInt i.val)
  | .float x => some x
  | _ => none

end Yaml

namespace Tree

/-- The tree of a number: the signed word that it is, or else a float. -/
def ofYamlNumber (number : Yaml) : Except YamlRejection Tree :=
  match number.int64?, number.binary64? with
  | some i, _ => .ok (.integer i)
  | none, some x => .ok (.float x)
  | none, none => .error (.number number)

mutual

/-- The tree of a YAML value.  The key of an entry is checked before its value. -/
def ofYaml : Yaml → Except YamlRejection Tree
  | .null => .ok .null
  | .bool b => .ok (.bool b)
  | .integer i => ofYamlNumber (.integer i)
  | .float x => ofYamlNumber (.float x)
  | .string s => .ok (.string s)
  | .sequence items => (ofYamlItems items).map .sequence
  | .mapping entries => (ofYamlEntries entries []).map .mapping
  | .tagged tag _ => .error (.tagged tag)

/-- The trees of the items of a sequence. -/
def ofYamlItems : List Yaml → Except YamlRejection (List Tree)
  | [] => .ok []
  | y :: rest =>
    match ofYaml y with
    | .error e => .error e
    | .ok t => (ofYamlItems rest).map (t :: ·)

/-- The entries of a mapping, put in after those read before. -/
def ofYamlEntries : List (Yaml × Yaml) → Entries Tree → Except YamlRejection (Entries Tree)
  | [], read => .ok read
  | (.string key, value) :: rest, read =>
    match ofYaml value with
    | .error e => .error e
    | .ok t => ofYamlEntries rest (read.insert key t)
  | (key, _) :: _, _ => .error (.nonStringKey key)

end

@[simp]
theorem ofYamlNumber_integer (i : WordInteger) :
  ofYamlNumber (.integer i) = .ok (ofWordInteger i)
  := by
  rw [ofYamlNumber, ofWordInteger, Yaml.int64?, Yaml.binary64?]
  cases i.toInt64? <;> rfl

@[simp]
theorem ofYamlNumber_float (x : Binary64) :
  ofYamlNumber (.float x) = .ok (.float x)
  := rfl

end Tree

namespace Yaml

mutual

/-- The datum that a YAML value is offered as, by the documented behaviour of the serializer
library: an integer as a JSON integer is, and a value under a tag as one under a name. -/
def toDatum : Yaml → Datum
  | .null => .unit
  | .bool b => .bool b
  | .integer i => Json.integerDatum i
  | .float x => .binary64 x
  | .string s => .string s
  | .sequence items => .sequence (toDatumItems items)
  | .mapping entries => .mapping (toDatumEntries entries)
  | .tagged tag value => .variant tag value.toDatum

/-- The data that the items of a sequence are offered as. -/
def toDatumItems : List Yaml → List Datum
  | [] => []
  | y :: rest => y.toDatum :: toDatumItems rest

/-- The data that the entries of a mapping are offered as. -/
def toDatumEntries : List (Yaml × Yaml) → List (Datum × Datum)
  | [] => []
  | (key, value) :: rest => (key.toDatum, value.toDatum) :: toDatumEntries rest

end

end Yaml

end LayeredConfig
