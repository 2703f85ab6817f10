import LayeredConfig.Layering.Merge
import LayeredConfig.Release.Basis

/-!
# Resolving along the chain of bases

What an assembly gives is built on what its basis gives.  `ReleasesDocument.inherit` is this
recursion: it starts from a seed at the far end of the chain of bases and lets each assembly
add its own layer, the requested one last.  `groupConfig`, `memberConfig` and `field` resolve
the configuration of the group, of one member and a field.  `ReleasesDocument.eventFrom` goes
the other way: it stops at the nearest assembly that fixes an event, and `basisEvent` is what it
finds.  Each of them fails on a cyclic chain before anything else; where no assembly is in force,
the configurations are their seed, and there is no field and no event.
-/

namespace LayeredConfig.ReleasesDocument

/-- The name of the assembly in force, if there is one: not the empty name, and none in an
unstructured document. -/
def active? (doc : ReleasesDocument) (assembly : Option String) : Option String :=
  assembly.filter fun name => name != "" && doc.isStructured

/-- What an assembly gives: its own layer over what the assembly gives that it is built on,
and over the seed if it is built on none.  An undefined assembly gives the seed. -/
def inherit {α : Type} (doc : ReleasesDocument) (layer : Assembly → α → Except Error α) (seed : α)
    (name : String) : Except Error α :=
  if name = "" then .ok seed else
  match _ : doc.chain name with
  | .error e => .error e
  | .ok _ =>
    match _ : doc.assembly? name with
    | none => .ok seed
    | some target =>
      match _ : target.parent? with
      | none => layer target seed
      | some parent =>
        match doc.inherit layer seed parent with
        | .error e => .error e
        | .ok inherited => layer target inherited
termination_by doc.chainLength name
decreasing_by exact chainLength_parent_lt ‹_› ‹_› (by simp [parent?, *])

/-- Resolves along the chain of the assembly in force, and gives the seed if there is none. -/
def resolve {α : Type} (doc : ReleasesDocument) (assembly : Option String)
    (layer : Assembly → α → Except Error α) (seed : α) : Except Error α :=
  match doc.active? assembly with
  | none => .ok seed
  | some name => doc.inherit layer seed name

/-! ### Layers of an assembly -/

/-- Lays the group of an assembly, unless it is empty, over a configuration. -/
def groupLayer (target : Assembly) (inherited : Tree) : Except Error Tree :=
  match target.group?.filter Tree.isTruthy with
  | none => .ok inherited
  | some group => group.mergeOver inherited

/-- Lays the member overrides of an assembly over the metadata of a component. -/
def memberLayer (kind : MemberKind) (key : String) (target : Assembly) (inherited : Tree) :
    Except Error Tree :=
  Tree.mergeLayers (target.memberLayers kind key) inherited

/-- Lays a field of an assembly over the inherited one; either can be missing. -/
def fieldLayer (field : String) (target : Assembly) (inherited : Option Tree) :
    Except Error (Option Tree) :=
  match target.field? field, inherited with
  | some own, some base => (own.mergeOver base).map some
  | some own, none => .ok (some own)
  | none, inherited => .ok inherited

/-! ### Events -/

/-- The number of an event that the assembly of a given name fixes. -/
def eventNumber (name : String) (event : Tree) : Except Error Int64 :=
  match event.eventNumber? with
  | some number => .ok number
  | none => .error (.invalidEvent name event)

/-- The number of the event of an assembly, or of the nearest one that it is built on; farther
assemblies are not looked at.  An undefined assembly fixes no event. -/
def eventFrom (doc : ReleasesDocument) (name : String) : Except Error (Option Int64) :=
  if name = "" then .ok none else
  match _ : doc.chain name with
  | .error e => .error e
  | .ok _ =>
    match _ : doc.assembly? name with
    | none => .ok none
    | some target =>
      match target.event? with
      | some event => (eventNumber target.name event).map some
      | none =>
        match _ : target.parent? with
        | none => .ok none
        | some parent => doc.eventFrom parent
termination_by doc.chainLength name
decreasing_by exact chainLength_parent_lt ‹_› ‹_› (by simp [parent?, *])

/-! ### Entry points -/

/-- The configuration of the group, with the groups of the chain laid over it. -/
def groupConfig (doc : ReleasesDocument) (assembly : Option String) (config : Tree) :
    Except Error Tree :=
  doc.resolve assembly groupLayer config

/-- The metadata of a component, with the member overrides of the chain laid over it. -/
def memberConfig (doc : ReleasesDocument) (assembly : Option String) (kind : MemberKind)
    (key : String) (config : Tree) : Except Error Tree :=
  doc.resolve assembly (memberLayer kind key) config

/-- A field, merged along the chain. -/
def field (doc : ReleasesDocument) (field : String) (assembly : Option String) :
    Except Error (Option Tree) :=
  doc.resolve assembly (fieldLayer field) none

/-- The field `rhcos`. -/
def systemConfig (doc : ReleasesDocument) (assembly : Option String) :
    Except Error (Option Tree) :=
  doc.field "rhcos" assembly

/-- The field `issues`. -/
def issuesConfig (doc : ReleasesDocument) (assembly : Option String) :
    Except Error (Option Tree) :=
  doc.field "issues" assembly

/-- The event of the nearest assembly on the chain that fixes one. -/
def basisEvent (doc : ReleasesDocument) (assembly : Option String) :
    Except Error (Option Int64) :=
  match doc.active? assembly with
  | none => .ok none
  | some name => doc.eventFrom name

/-- Whether the chain of the assembly in force ends. -/
def checkBasis (doc : ReleasesDocument) (assembly : Option String) : Except Error Unit :=
  match doc.active? assembly with
  | none => .ok ()
  | some name => (doc.chain name).map fun _ => ()

end LayeredConfig.ReleasesDocument
