import LayeredConfig.Error
import LayeredConfig.Text.WordChar

/-!
# Names of assemblies

An `AssemblyName` is a nonempty text of word characters and dots that neither begins nor ends
with a dot.  `AssemblyName.flaw?` finds what is wrong with a text, and `AssemblyName.parse`
accepts the texts without a flaw.  Two names, `stream` and `test`, are built in.
-/

namespace LayeredConfig

namespace AssemblyName

/-- What is wrong with a text as the name of an assembly. -/
def flaw? (text : String) : Option NameFlaw :=
  let chars := text.toList
  if chars.isEmpty || !chars.all (fun c => Text.isWord c || c == '.') then some .character
  else if chars.head? == some '.' || chars.getLast? == some '.' then some .outerDot
  else none

end AssemblyName

/-- The name of an assembly. -/
structure AssemblyName where
  text : String
  flawless : AssemblyName.flaw? text = none
  deriving DecidableEq

namespace AssemblyName

/-- The name with a given text. -/
def parse (text : String) : Except Error AssemblyName :=
  match h : flaw? text with
  | none => .ok ⟨text, h⟩
  | some flaw => .error (.invalidName text flaw)

/-- The name of the assembly that follows the latest builds. -/
def stream : String := "stream"

/-- The name of the assembly for tests. -/
def test : String := "test"

/-- Whether a name is one of those built in. -/
def isBuiltin (name : AssemblyName) : Bool := name.text == stream || name.text == test

theorem parse_text (name : AssemblyName) :
  parse name.text = .ok name
  := by
  unfold parse
  split
  · rfl
  · next h => simp [name.flawless] at h

theorem text_of_parse {text : String} {name : AssemblyName} (h : parse text = .ok name) :
  name.text = text
  := by
  unfold parse at h
  split at h
  · cases h
    rfl
  · contradiction

/-- A text is refused exactly for its flaw. -/
theorem parse_eq_error_iff {text : String} {e : Error} :
  parse text = .error e ↔ ∃ flaw, flaw? text = some flaw ∧ e = .invalidName text flaw
  := by
  unfold parse
  split
  · next h => simp [h]
  · next flaw h => simp [h, eq_comm]

end AssemblyName

end LayeredConfig
