import LayeredConfig.Tree.Description

/-!
# Errors

`Error` lists the causes for which merging, resolving and reading of pins can fail, each with
what it concerns.  `Error.message` is the wording of a cause.
-/

namespace LayeredConfig

/-- What is wrong with the name of an assembly. -/
inductive NameFlaw where
  /-- It is empty or has a character that is neither a word character nor a dot. -/
  | character
  /-- It begins or ends with a dot. -/
  | outerDot
  deriving DecidableEq

/-- What is wrong with the name, version and release of a build. -/
inductive NvrFlaw where
  /-- It has more than one colon. -/
  | colons
  /-- It has fewer than three parts. -/
  | parts
  /-- Its epoch is not a number. -/
  | epoch (text : String)
  deriving DecidableEq

/-- Why an operation failed. -/
inductive Error where
  /-- The chain of bases that starts at `assembly` meets `repeated` a second time. -/
  | cycle (assembly repeated : String) (chain : List String)
  /-- A merged sequence that starts with `first` holds `offending`, which is not comparable
  with it. -/
  | unorderable (first offending : Tree)
  /-- The basis event of an assembly is not a number. -/
  | invalidEvent (assembly : String) (event : Tree)
  /-- An assembly with a basis event is used together with another event. -/
  | eventConflict (assembly : String) (basis requested : Int64)
  /-- Issues are both included and excluded. -/
  | issueConflict (ids : List UInt64)
  /-- A build is not given by its name, version and release. -/
  | invalidNvr (nvr : String) (flaw : NvrFlaw)
  /-- A pinned image does not name a build. -/
  | missingPin (key : String)
  /-- A pinned package cannot be read without an el version. -/
  | missingElVersion (key : String)
  /-- The name of an assembly is malformed. -/
  | invalidName (name : String) (flaw : NameFlaw)
  /-- A kind of members is unknown. -/
  | unknownMemberKind (kind : String)
  deriving DecidableEq

/-- The wording of a flaw of a name. -/
def NameFlaw.message : NameFlaw → String
  | .character => "only alphanumerics, '.' and '_' are allowed"
  | .outerDot => "must not start or end with '.'"

/-- The wording of a flaw of a name, version and release. -/
def NvrFlaw.message : NvrFlaw → String
  | .colons => "more than one ':'"
  | .parts => "expected name-version-release"
  | .epoch text => "invalid epoch '" ++ text ++ "'"

/-- The wording of an error. -/
def Error.message : Error → String
  | .cycle assembly repeated chain =>
    "Infinite recursion in " ++ assembly ++ " detected; " ++ repeated
      ++ " detected twice in chain [" ++ " -> ".intercalate chain ++ "]"
  | .unorderable first offending =>
    "Cannot sort merged list: " ++ first.summary ++ " and " ++ offending.summary
      ++ " are not comparable"
  | .invalidEvent assembly event =>
    "Invalid basis brew event in assembly " ++ assembly ++ ": " ++ event.detail
  | .eventConflict assembly basis requested =>
    "Cannot run with assembly basis event " ++ toString basis.toInt ++ " and brew event "
      ++ toString requested.toInt ++ " at the same time (assembly " ++ assembly ++ ")"
  | .issueConflict ids =>
    "The following issues are defined in both 'include' and 'exclude': "
      ++ Tree.enclosed "[" "]" (ids.map fun id => toString id.toNat)
  | .invalidNvr nvr flaw => "Invalid NVR '" ++ nvr ++ "': " ++ flaw.message
  | .missingPin key => "Pinned component " ++ key ++ " has no 'nvr' in its 'is' stanza"
  | .missingElVersion key =>
    "An el version is required to read the pinned RPM build of " ++ key
  | .invalidName name flaw => "Invalid assembly name '" ++ name ++ "': " ++ flaw.message
  | .unknownMemberKind kind => "Unknown member kind: " ++ kind

end LayeredConfig
