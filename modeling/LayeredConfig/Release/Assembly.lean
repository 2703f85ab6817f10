import LayeredConfig.Binary64.Rounding
import LayeredConfig.Release.Member
import LayeredConfig.Text.Digits

/-!
# Assemblies

An `Assembly` is a named definition.  Its basis names the assembly it is built on or fixes an
event; its fields, of which `group` is one, are laid over what the basis gives, and its member
overrides over the metadata of single components.

`Tree.eventNumber?` reads the number of an event: an integer, a whole float or a run of decimal
digits, if its value fits a signed word.  The value is exact; nothing is rounded or cut off.
-/

namespace LayeredConfig

/-! ### Numbers of events -/

namespace Tree

/-- The signed word of a given value. -/
def word? (i : Int) : Option Int64 :=
  if Int64.minValue.toInt ≤ i ∧ i ≤ Int64.maxValue.toInt then some (.ofInt i) else none

/-- The number of an event.  A float counts if it is whole and its magnitude is below the float
nearest to the greatest signed word. -/
def eventNumber? : Tree → Option Int64
  | .integer i => some i
  | .float x =>
    if x.isWhole && x.abs.isBelow (.ofInt Int64.maxValue.toInt) then some x.toInt64 else none
  | .string s => (Text.decimal? s.toList).bind fun n => word? n
  | _ => none

/-- An integer is read as the signed word of its value, if there is one. -/
theorem word?_eq_some_iff {i : Int} {w : Int64} :
  word? i = some w ↔ w.toInt = i
  := by
  rw [word?]
  constructor
  · intro h
    split at h
    · next hi =>
      cases h
      exact Int64.toInt_ofInt_of_le hi.1 (Int.lt_add_one_of_le hi.2)
    · cases h
  · rintro rfl
    rw [if_pos ⟨Int64.minValue_le_toInt w, Int64.toInt_le w⟩, Int64.ofInt_toInt]

end Tree

/-! ### Definitions -/

/-- A named definition. -/
structure Assembly where
  name : String
  definition : Tree
  deriving DecidableEq

namespace Assembly

/-- The name of the assembly that an assembly is built on. -/
def parent? (a : Assembly) : Option String :=
  ((a.definition.lookup ["basis", "assembly"]).bind Tree.string?).filter fun name => !name.isEmpty

/-- The event that the basis fixes, as it is written. -/
def event? (a : Assembly) : Option Tree :=
  (a.definition.lookup ["basis", "brew_event"]).filter Tree.isTruthy

/-- The value of a field. -/
def field? (a : Assembly) (field : String) : Option Tree := a.definition.get? field

/-- The value of the field `group`. -/
def group? (a : Assembly) : Option Tree := a.field? "group"

/-- The overrides of the members of a kind, in their order. -/
def members (a : Assembly) (kind : MemberKind) : List MemberOverride :=
  match a.definition.lookup ["members", kind.membersKey] with
  | some members => members.items.map .ofEntry
  | none => []

/-- The layers that the overrides of a kind lay over the metadata of a component, the lowest
first. -/
def memberLayers (a : Assembly) (kind : MemberKind) (key : String) : List Tree :=
  (a.members kind).filterMap fun m => m.layerFor key

theorem parent?_ne_empty {a : Assembly} {parent : String} (h : a.parent? = some parent) :
  parent ≠ ""
  := by
  rintro rfl
  simp [parent?, Option.filter_eq_some_iff] at h

end Assembly

end LayeredConfig
