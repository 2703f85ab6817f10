/-!
# Merge keys

The last character of a key of an overlay can be a marker: `!` makes the overlay's value
replace the value below it, and `?` makes it fill a gap only.  `MergeKey.parse` splits a
written key into the name and the directive; only one marker is taken off.
`MergeKey.written` puts the marker back.
-/

namespace LayeredConfig

/-- How the value of an overlay meets the value below it. -/
inductive MergeDirective where
  /-- The two are merged. -/
  | plain
  /-- The value of the overlay replaces the one below it. -/
  | override
  /-- The value of the overlay is taken where there is none below it. -/
  | fallback
  deriving DecidableEq

/-- A key of an overlay: the name it stands for and what is done with its value. -/
structure MergeKey where
  name : String
  directive : MergeDirective
  deriving DecidableEq

/-- The marker of a directive. -/
def MergeDirective.marker : MergeDirective → List Char
  | .plain => []
  | .override => ['!']
  | .fallback => ['?']

namespace MergeKey

/-- The key that a raw key of a mapping stands for. -/
def parse (raw : String) : MergeKey :=
  match raw.toList.getLast? with
  | some '!' => ⟨.ofList raw.toList.dropLast, .override⟩
  | some '?' => ⟨.ofList raw.toList.dropLast, .fallback⟩
  | _ => ⟨raw, .plain⟩

/-- The raw key that is written for a key. -/
def written (key : MergeKey) : String :=
  .ofList (key.name.toList ++ key.directive.marker)

/-- Whether a raw key ends in a marker. -/
def isMarked (raw : String) : Bool := (parse raw).directive != .plain

theorem parse_override (name : String) :
  parse (written ⟨name, .override⟩) = ⟨name, .override⟩
  := by
  simp [parse, written, MergeDirective.marker]

theorem parse_fallback (name : String) :
  parse (written ⟨name, .fallback⟩) = ⟨name, .fallback⟩
  := by
  simp [parse, written, MergeDirective.marker]

/-- Reading a key and writing it again changes nothing. -/
theorem written_parse (raw : String) :
  (parse raw).written = raw
  := by
  unfold parse
  split
  · next h =>
    rw [List.getLast?_eq_some_iff] at h
    obtain ⟨name, h⟩ := h
    simp [written, MergeDirective.marker, h, ← String.toList_inj]
  · next h =>
    rw [List.getLast?_eq_some_iff] at h
    obtain ⟨name, h⟩ := h
    simp [written, MergeDirective.marker, h, ← String.toList_inj]
  · simp [written, MergeDirective.marker]

end MergeKey

end LayeredConfig
