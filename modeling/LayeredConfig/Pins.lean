import LayeredConfig.Nvr
import LayeredConfig.Release.Member

/-!
# Pinned builds

A configuration pins builds in two places.  `dependencyPins` collects the builds listed under
`dependencies` and `rpms` for one el version, by the names of their packages; `pinnedNvr` is
the build that the stanza `is` fixes for a component.
-/

namespace LayeredConfig.Tree

/-- The key under which a build for an el version stands. -/
def elKey (el : UInt32) : String := "el" ++ toString el.toNat

/-- The text under a key, unless it is empty. -/
def nonemptyString? (t : Tree) (key : String) : Option String :=
  ((t.get? key).bind string?).filter fun s => !s.isEmpty

/-- The builds listed as dependencies for an el version, in their order. -/
def dependencyTexts (config : Tree) (el : UInt32) : List String :=
  match config.lookup ["dependencies", "rpms"] with
  | some dependencies => dependencies.items.filterMap fun entry => entry.nonemptyString? (elKey el)
  | none => []

/-- Puts a build under the name of its package. -/
def addPin (pins : Entries String) (text : String) : Except Error (Entries String) :=
  (Nvr.parse text).map fun nvr => pins.insert nvr.name text

/-- The builds listed as dependencies for an el version, by the names of their packages; a
later build of a package replaces an earlier one. -/
def dependencyPins (config : Tree) (el : UInt32) : Except Error (Entries String) :=
  (config.dependencyTexts el).foldlM addPin []

/-- The build that a stanza fixes for a package. -/
def pinnedPackage (stanza : Tree) (key : String) : Option UInt32 → Except Error (Option String)
  | none => .error (.missingElVersion key)
  | some el => .ok (stanza.nonemptyString? (elKey el))

/-- The build that a stanza fixes for an image. -/
def pinnedImage (stanza : Tree) (key : String) : Except Error (Option String) :=
  match stanza with
  | .string nvr => .ok (some nvr)
  | other =>
    match other.nonemptyString? "nvr" with
    | some nvr => .ok (some nvr)
    | none => .error (.missingPin key)

/-- The build that a configuration fixes for a component, if it fixes one. -/
def pinnedNvr (config : Tree) (kind : MemberKind) (key : String) (el : Option UInt32) :
    Except Error (Option String) :=
  match (config.get? "is").filter isTruthy, kind with
  | none, _ => .ok none
  | some stanza, .package => stanza.pinnedPackage key el
  | some stanza, .image => stanza.pinnedImage key

end LayeredConfig.Tree
