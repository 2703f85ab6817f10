import LayeredConfig.Issues
import LayeredConfig.Settings

/-!
# Contexts

A `Context` is the settled state of one run: which assembly is in force, the configuration of
the group resolved for it, and the event to use.  `Context.settle` makes it from settings, a
document and the configuration of the group, and fails where these contradict one another.
The queries of a context are those of its document at the assembly in force.
-/

namespace LayeredConfig

/-- The settled state of one run. -/
structure Context where
  releases : ReleasesDocument
  assembly : Option AssemblyName
  groupConfig : Tree
  basisEvent : Option Int64
  event : Option Int64

namespace Context

/-- The requested assembly, if its name is not empty. -/
def requested? (settings : Settings) : Option String :=
  settings.assembly.filter fun name => !name.isEmpty

/-- Whether the configuration of a group enables assemblies. -/
def isEnabledBy (config : Tree) : Bool :=
  match config.lookup ["assemblies", "enabled"] with
  | some enabled => enabled.isTruthy
  | none => false

/-- The assembly in force, if the requested name is well formed. -/
def name? (requested : Option String) : Except Error (Option AssemblyName) :=
  match requested with
  | none => .ok none
  | some name => (AssemblyName.parse name).map some

/-- The event to use, where at most one of the basis and the settings fixes one. -/
def event? (assembly : Option AssemblyName) (basis requested : Option Int64) :
    Except Error (Option Int64) :=
  match basis, requested with
  | some basis, some requested =>
    .error (.eventConflict ((assembly.map AssemblyName.text).getD "") basis requested)
  | some basis, none => .ok (some basis)
  | none, requested => .ok requested

/-- The context of a run.  The configuration of the group is resolved first, since it can
enable assemblies itself; without assemblies in force the configuration stays as given. -/
def settle (settings : Settings) (releases : ReleasesDocument) (config : Tree) :
    Except Error Context := do
  let requested := requested? settings
  let resolved ← releases.groupConfig requested config
  let isEnabled := settings.enableAssemblies || isEnabledBy resolved
  let assembly ← if isEnabled then name? requested else .ok none
  let groupConfig := if isEnabled then resolved else config
  let basisEvent ← releases.basisEvent (assembly.map AssemblyName.text)
  let event ← event? assembly basisEvent settings.event
  return { releases, assembly, groupConfig, basisEvent, event }

/-- The name of the assembly in force. -/
def assemblyName (c : Context) : Option String := c.assembly.map AssemblyName.text

/-- Whether the assembly in force is one that is not built in. -/
def isStrict (c : Context) : Bool :=
  match c.assembly with
  | some name => !name.isBuiltin
  | none => false

/-- What is appended to the release of builds: the name of the assembly in force, or that of
the stream if the basis fixes an event. -/
def buildSuffix (c : Context) : Option String :=
  c.assemblyName.map fun name =>
    ".assembly." ++ (if c.basisEvent.isSome then AssemblyName.stream else name)

/-! ### Queries -/

/-- The metadata of a component. -/
def memberConfig (c : Context) (kind : MemberKind) (key : String) (config : Tree) :
    Except Error Tree :=
  c.releases.memberConfig c.assemblyName kind key config

/-- The field `rhcos`. -/
def systemConfig (c : Context) : Except Error (Option Tree) :=
  c.releases.systemConfig c.assemblyName

/-- The field `issues`. -/
def issuesConfig (c : Context) : Except Error (Option Tree) :=
  c.releases.issuesConfig c.assemblyName

/-- The issue overrides. -/
def issueOverrides (c : Context) : Except Error IssueOverrides :=
  c.releases.issueOverrides c.assemblyName

/-- Whether the chain of bases of the assembly in force ends. -/
def checkBasis (c : Context) : Except Error Unit :=
  c.releases.checkBasis c.assemblyName

end Context

end LayeredConfig
