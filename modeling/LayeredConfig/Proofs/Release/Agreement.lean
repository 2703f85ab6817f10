import LayeredConfig.Proofs.Release.Failure

/-!
# Documents that agree along a walk

What is resolved for an assembly depends on the assemblies that its walk meets, and on nothing
else in the document.  Two documents that give the names on the walk the same parents walk
alike, whether the walk ends or comes back (`chain_congr`).  If they also define the same
assemblies for these names, everything that is resolved is the same
(`resolve_determined_by_walk`); for the metadata of a component it is enough that the entries
of the lists of members that are for the component give the same metadata.
-/

namespace LayeredConfig.ReleasesDocument

variable {doc doc' : ReleasesDocument} {name : String}

/-- The walk from a name meets another one.  The walk from the empty name meets none. -/
def Meets (doc : ReleasesDocument) (name other : String) : Prop :=
  name ≠ "" ∧ ∃ n, doc.ancestor? name n = some other

/-- Two documents give every name that the walk from a name meets in the first one the same
parent. -/
def SameParents (doc doc' : ReleasesDocument) (name : String) : Prop :=
  ∀ other, doc.Meets name other → doc.parent? other = doc'.parent? other

/-- Two documents define the same assembly, or both none, for every name that the walk from a
name meets in the first one. -/
def SameAssemblies (doc doc' : ReleasesDocument) (name : String) : Prop :=
  ∀ other, doc.Meets name other → doc.assembly? other = doc'.assembly? other

/-- Two documents give every name that the walk from a name meets in the first one the same
parent and the same metadata to lay over that of a component. -/
def SameMembers (doc doc' : ReleasesDocument) (kind : MemberKind) (key : String)
    (name : String) : Prop :=
  ∀ other, doc.Meets name other → doc.parent? other = doc'.parent? other
    ∧ doc.metadataLayers kind key [other] = doc'.metadataLayers kind key [other]

theorem SameAssemblies.sameParents (h : doc.SameAssemblies doc' name) :
  doc.SameParents doc' name
  := by
  intro other ho
  rw [parent?, parent?, h other ho]

theorem SameMembers.sameParents {kind : MemberKind} {key : String}
    (h : doc.SameMembers doc' kind key name) :
  doc.SameParents doc' name
  := by
  intro other ho
  apply (h other ho).1

/-! ### The walk -/

theorem meets_self (hn : name ≠ "") :
  doc.Meets name name
  := ⟨hn, 0, rfl⟩

/-- What the walk from a parent meets is met on the walk from its child too. -/
theorem Meets.of_parent? {parent other : String} (hn : name ≠ "")
    (hp : doc.parent? name = some parent) (h : doc.Meets parent other) :
  doc.Meets name other
  := by
  obtain ⟨-, n, ho⟩ := h
  use hn, n + 1
  rw [ancestor?_succ_of_parent? hp, ho]

/-- Names that are closed under parents hold all that is met on a walk from one of them. -/
theorem Meets.mem {names : List String} {other : String} (h : doc.Meets name other)
    (hn : name ∈ names)
    (hclosed : ∀ child ∈ names, ∀ parent ∈ doc.parent? child, parent ∈ names) :
  other ∈ names
  := by
  obtain ⟨-, n, ho⟩ := h
  induction n generalizing other with
  | zero =>
    cases ho
    apply hn
  | succ n ih =>
    obtain ⟨child, hc, hp⟩ := Option.bind_eq_some_iff.1 ho
    apply hclosed child (ih hc) other hp

/-- The names on a chain are met on the walk from its first one. -/
theorem meets_of_mem_chain {path : List String} {other : String} (hc : doc.chain name = .ok path)
    (ho : other ∈ path) :
  doc.Meets name other
  := by
  by_cases ha : doc.isStructured = true ∧ name ≠ ""
  · obtain ⟨n, hn⟩ := List.mem_iff_getElem?.1 ho
    use ha.2, n
    rw [← ((chain_eq_ok_iff ha.1 ha.2).1 hc).getElem?_eq_ancestor?, hn]
  · cases (chain_of_inactive ha).symm.trans hc
    cases ho

/-- Documents that give the names on a walk the same parents walk in step. -/
theorem walk_congr {start current : String} {visited : List String} (hn : current ≠ "")
    (h : doc.SameParents doc' current) :
  doc.walk start visited current = doc'.walk start visited current
  := by
  fun_induction doc.walk start visited current with
  | case1 visited current hm => rw [walk, if_pos hm]
  | case2 visited current hm hp =>
    have hp' : doc'.parent? current = none := by rw [← h current (meets_self hn), hp]
    rw [walk, if_neg hm, hp']
  | case3 visited current hm parent hp ih =>
    have hp' : doc'.parent? current = some parent := by rw [← h current (meets_self hn), hp]
    have hparent : doc.SameParents doc' parent := by
      intro other ho
      apply h other (ho.of_parent? hn hp)
    symm
    rw [walk, if_neg hm, hp']
    exact (ih (parent?_ne_empty hp) hparent).symm

theorem chain_congr (hs : doc.isStructured = doc'.isStructured) (h : doc.SameParents doc' name) :
  doc.chain name = doc'.chain name
  := by
  by_cases hn : name = ""
  · cases hn
    rfl
  · rw [chain, chain, hs, walk_congr hn h]

/-! ### Resolving -/

section

variable {α : Type} {layer : Assembly → α → Except Error α}

theorem foldlM_layerAt_congr {names : List String}
    (h : ∀ other ∈ names, ∀ inherited,
      doc.layerAt layer inherited other = doc'.layerAt layer inherited other)
    (base : α) :
  names.foldlM (doc.layerAt layer) base = names.foldlM (doc'.layerAt layer) base
  := by
  induction names generalizing base with
  | nil => rfl
  | cons other names ih =>
    rw [List.foldlM_cons, List.foldlM_cons, h other List.mem_cons_self base]
    congr 1
    funext inherited
    apply ih
    intro further hm
    apply h further (List.mem_cons_of_mem _ hm)

/-- Resolving gives the same in two documents that walk in step and in which every name on the
walk makes the same of what it inherits. -/
theorem resolve_congr (hs : doc.isStructured = doc'.isStructured)
    (hp : doc.SameParents doc' name)
    (hlayer : ∀ other, doc.Meets name other →
      ∀ inherited, doc.layerAt layer inherited other = doc'.layerAt layer inherited other)
    (seed : α) :
  doc.resolve (some name) layer seed = doc'.resolve (some name) layer seed
  := by
  rw [resolve_some, resolve_some, ← chain_congr hs hp]
  cases hc : doc.chain name with
  | error e => rfl
  | ok path =>
    apply foldlM_layerAt_congr
    intro other ho
    apply hlayer other (meets_of_mem_chain hc (List.mem_reverse.1 ho))

/-- Documents that define the same assemblies on a walk resolve every kind of layer alike. -/
theorem SameAssemblies.resolve_eq (hs : doc.isStructured = doc'.isStructured)
    (h : doc.SameAssemblies doc' name) (layer : Assembly → α → Except Error α) (seed : α) :
  doc.resolve (some name) layer seed = doc'.resolve (some name) layer seed
  := by
  apply resolve_congr hs h.sameParents
  intro other ho inherited
  rw [layerAt, layerAt, h other ho]

end

theorem firstEvent_congr {names : List String}
    (h : ∀ other ∈ names, doc.assembly? other = doc'.assembly? other) :
  doc.firstEvent names = doc'.firstEvent names
  := by
  have hfind : names.findSome? doc.eventAt? = names.findSome? doc'.eventAt? := by
    induction names with
    | nil => rfl
    | cons other names ih =>
      obtain ⟨hother, hnames⟩ := List.forall_mem_cons.1 h
      rw [List.findSome?_cons, List.findSome?_cons, eventAt?, eventAt?, hother, ih hnames]
  rw [firstEvent, firstEvent, hfind]

/-- Documents that define the same assemblies on a walk have the same basis event. -/
theorem SameAssemblies.basisEvent_eq (hs : doc.isStructured = doc'.isStructured)
    (h : doc.SameAssemblies doc' name) :
  doc.basisEvent (some name) = doc'.basisEvent (some name)
  := by
  rw [basisEvent_some, basisEvent_some, ← chain_congr hs h.sameParents]
  cases hc : doc.chain name with
  | error e => rfl
  | ok path =>
    apply firstEvent_congr
    intro other ho
    apply h other (meets_of_mem_chain hc ho)

/-- Documents in which the members on a walk give the same metadata resolve the metadata of
the component alike. -/
theorem SameMembers.memberConfig_eq {kind : MemberKind} {key : String}
    (hs : doc.isStructured = doc'.isStructured) (h : doc.SameMembers doc' kind key name)
    (seed : Tree) :
  doc.memberConfig (some name) kind key seed = doc'.memberConfig (some name) kind key seed
  := by
  apply resolve_congr hs h.sameParents
  intro other ho inherited
  have hlayers := (h other ho).2
  rw [metadataLayers, metadataLayers, List.flatMap_singleton, List.flatMap_singleton] at hlayers
  rw [layerAt_memberLayer, layerAt_memberLayer, hlayers]

/-! ### Everything that is resolved -/

/-- Two documents give the same results for the assembly of a given name. -/
structure SameResults (doc doc' : ReleasesDocument) (name : String) : Prop where
  chain : doc.chain name = doc'.chain name
  groupConfig (seed : Tree) : doc.groupConfig (some name) seed = doc'.groupConfig (some name) seed
  memberConfig (kind : MemberKind) (key : String) (seed : Tree) :
    doc.memberConfig (some name) kind key seed = doc'.memberConfig (some name) kind key seed
  field (field : String) : doc.field field (some name) = doc'.field field (some name)
  systemConfig : doc.systemConfig (some name) = doc'.systemConfig (some name)
  issuesConfig : doc.issuesConfig (some name) = doc'.issuesConfig (some name)
  basisEvent : doc.basisEvent (some name) = doc'.basisEvent (some name)
  issueOverrides : doc.issueOverrides (some name) = doc'.issueOverrides (some name)
  checkBasis : doc.checkBasis (some name) = doc'.checkBasis (some name)

theorem SameAssemblies.sameResults (hs : doc.isStructured = doc'.isStructured)
    (h : doc.SameAssemblies doc' name) :
  doc.SameResults doc' name
  := by
  have hchain := chain_congr hs h.sameParents
  have hfield : ∀ field, doc.field field (some name) = doc'.field field (some name) := by
    intro field
    apply h.resolve_eq hs
  constructor
  case chain => apply hchain
  case groupConfig => apply h.resolve_eq hs
  case memberConfig =>
    intro kind key
    apply h.resolve_eq hs
  case field => apply hfield
  case systemConfig => apply hfield
  case issuesConfig => apply hfield
  case basisEvent => apply h.basisEvent_eq hs
  case issueOverrides =>
    rw [issueOverrides, issueOverrides, issuesConfig, issuesConfig, hfield]
  case checkBasis => rw [checkBasis_some, checkBasis_some, hchain]

/-- Two structured documents that define the same assemblies for the names on a walk, be it a
walk that ends or one that comes back, give the same results, successes and failures.  For the
metadata of a component less is enough: the same parents, and in each assembly the same
metadata of the entries for the component, in the same order. -/
theorem resolve_determined_by_walk (hs : doc.isStructured = true)
    (hs' : doc'.isStructured = true) (name : String) :
  (doc.SameAssemblies doc' name → doc.SameResults doc' name)
    ∧ ∀ kind key, doc.SameMembers doc' kind key name →
      ∀ seed, doc.memberConfig (some name) kind key seed
        = doc'.memberConfig (some name) kind key seed
  := by
  constructor
  · intro h
    apply h.sameResults (hs.trans hs'.symm)
  · intro kind key h
    apply h.memberConfig_eq (hs.trans hs'.symm)

/-! ### Releases that differ beside the walk -/

/-- The looped releases without the one that is not on the loop, and with a further key. -/
def trimmedReleases : ReleasesDocument where
  root := .mapping [("releases", .mapping [
      ("left", release [("assembly", .string "right")] []),
      ("right", release [("assembly", .string "left")] []),
      ("start", release [("assembly", .string "left"), ("brew_event", .string "soon")]
        [("group", .sequence [.string "one", .integer 2])])]),
    ("version", .integer 2)]

/-- The stacked releases with other groups, without images, and without the packages that are
not `kuryr`. -/
def regroupedReleases : ReleasesDocument where
  root := .mapping [("releases", .mapping [
    ("4.8.0", release [("assembly", .string "4.7.9"), ("brew_event", .integer 5)] [
      ("members", .mapping [("rpms", .sequence [
        memberEntry "*" [("mode", .string "auto"), ("owner", .string "all")]])])]),
    ("4.8.1", release [("assembly", .string "4.8.0")] [
      ("group", .mapping [("name", .string "middle")])]),
    ("4.8.2", release [("assembly", .string "4.8.1")] [
      ("members", .mapping [("rpms", .sequence [
        memberEntry "kuryr" [("owner", .string "network")]])])])])]

theorem sameAssemblies_trimmedReleases :
  loopedReleases.SameAssemblies trimmedReleases "start"
  := by
  have hsame : ∀ other ∈ ["start", "left", "right"],
      loopedReleases.assembly? other = trimmedReleases.assembly? other := by decide
  intro other ho
  apply hsame other
  apply ho.mem (by decide) (by decide)

theorem sameMembers_regroupedReleases :
  stackedReleases.SameMembers regroupedReleases .package "kuryr" "4.8.2"
  := by
  have hsame : ∀ other ∈ ["4.8.2", "4.8.1", "4.8.0", "4.7.9"],
      stackedReleases.parent? other = regroupedReleases.parent? other
        ∧ stackedReleases.metadataLayers .package "kuryr" [other]
          = regroupedReleases.metadataLayers .package "kuryr" [other] := by decide
  intro other ho
  apply hsame other
  apply ho.mem (by decide) (by decide)

theorem resolve_trimmedReleases_regroupedReleases :
  loopedReleases.isStructured = true ∧ trimmedReleases.isStructured = true
    ∧ loopedReleases.SameAssemblies trimmedReleases "start"
    ∧ loopedReleases.SameResults trimmedReleases "start"
    ∧ stackedReleases.isStructured = true ∧ regroupedReleases.isStructured = true
    ∧ stackedReleases.SameMembers regroupedReleases .package "kuryr" "4.8.2"
    ∧ stackedReleases.memberConfig (some "4.8.2") .package "kuryr" .null
      = regroupedReleases.memberConfig (some "4.8.2") .package "kuryr" .null
  := by
  have hall : loopedReleases.SameResults trimmedReleases "start" := by
    apply (resolve_determined_by_walk rfl rfl "start").1 sameAssemblies_trimmedReleases
  refine ⟨rfl, rfl, sameAssemblies_trimmedReleases, hall, rfl, rfl,
    sameMembers_regroupedReleases, ?_⟩
  apply (resolve_determined_by_walk rfl rfl "4.8.2").2 _ _ sameMembers_regroupedReleases

end LayeredConfig.ReleasesDocument
