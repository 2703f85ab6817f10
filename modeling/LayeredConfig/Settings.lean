import LayeredConfig.AssemblyName
import LayeredConfig.Json.Basic

/-!
# Settings

`Settings` are the choices of one run: the requested assembly, whether assemblies are used
even if the group does not enable them, and an event to use.  `Settings.ofJson?` reads them
from an object, in which unknown keys are ignored, or from an array that gives them by
position; what is missing has its default.
-/

namespace LayeredConfig

/-- The choices of one run. -/
structure Settings where
  assembly : Option String := some AssemblyName.stream
  enableAssemblies : Bool := false
  event : Option Int64 := none
  deriving DecidableEq

namespace Settings

/-- An optional value, null where it is absent. -/
def optional? {α : Type} (read : Json → Option α) : Json → Option (Option α)
  | .null => some none
  | j => (read j).map some

/-- An event in a JSON value. -/
def event? (j : Json) : Option Int64 := j.integer?.bind WordInteger.toInt64?

/-- A field, with its default where it is missing. -/
def fieldOr {α : Type} (default : α) (read : Json → Option α) : Option Json → Option α
  | none => some default
  | some j => read j

/-- The settings whose fields are given by JSON values, where they are not missing. -/
def ofFields? (assembly enableAssemblies event : Option Json) : Option Settings := do
  let defaults : Settings := {}
  return {
    assembly := ← fieldOr defaults.assembly (optional? Json.string?) assembly
    enableAssemblies := ← fieldOr defaults.enableAssemblies Json.bool? enableAssemblies
    event := ← fieldOr defaults.event (optional? event?) event }

/-- The settings that a JSON value describes. -/
def ofJson? (j : Json) : Option Settings :=
  match j with
  | .object _ => ofFields? (j.get? "assembly") (j.get? "enable_assemblies") (j.get? "brew_event")
  | .array items =>
    if items.length ≤ 3 then ofFields? items[0]? items[1]? items[2]? else none
  | _ => none

end Settings

end LayeredConfig
