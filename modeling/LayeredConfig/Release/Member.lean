import LayeredConfig.Error

/-!
# Members of an assembly

An assembly overrides the metadata of its members, which are packages and images.  A
`MemberOverride` is one entry of a list of overrides: the key of the component it is for, or
the wildcard `*` for every component, and the metadata to lay over that of the component.
-/

namespace LayeredConfig

/-- The kinds of members. -/
inductive MemberKind where
  | package
  | image
  deriving DecidableEq

namespace MemberKind

/-- The name of a kind. -/
def name : MemberKind → String
  | .package => "rpm"
  | .image => "image"

/-- The key of the list of members of a kind. -/
def membersKey : MemberKind → String
  | .package => "rpms"
  | .image => "images"

/-- The kind of a given name. -/
def parse (name : String) : Except Error MemberKind :=
  if name = "rpm" then .ok .package
  else if name = "image" then .ok .image
  else .error (.unknownMemberKind name)

end MemberKind

/-- One entry of a list of member overrides; either part can be missing. -/
structure MemberOverride where
  key : Option String
  metadata : Option Tree
  deriving DecidableEq

namespace MemberOverride

/-- The key that stands for every component. -/
def wildcard : String := "*"

/-- The override that an entry of a list of members describes. -/
def ofEntry (entry : Tree) : MemberOverride where
  key := (entry.get? "distgit_key").bind Tree.string?
  metadata := entry.get? "metadata"

/-- Whether an override is for every component. -/
def isWildcard (m : MemberOverride) : Bool := m.key == some wildcard

/-- Whether an override is for the component of the given key. -/
def appliesTo (m : MemberOverride) (key : String) : Bool := m.isWildcard || m.key == some key

/-- The metadata to lay over that of the component of the given key, if the override is for
it and its metadata is not empty. -/
def layerFor (m : MemberOverride) (key : String) : Option Tree :=
  if m.appliesTo key then m.metadata.filter Tree.isTruthy else none

theorem appliesTo_iff {m : MemberOverride} {key : String} :
  m.appliesTo key = true ↔ m.key = some wildcard ∨ m.key = some key
  := by
  simp [appliesTo, isWildcard]

end MemberOverride

end LayeredConfig
