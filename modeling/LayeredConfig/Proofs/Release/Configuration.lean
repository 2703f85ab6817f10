import LayeredConfig.Proofs.Layering.Failure
import LayeredConfig.Proofs.Release.Inheritance
import Mathlib.Data.List.Basic

/-!
# Configurations resolved along the chain

The configuration of the group is the seed with the groups of the chain laid over it
(`groupConfig_eq_mergeLayers`), and the metadata of a component is the seed with the matching
entries of the lists of members laid over it (`memberConfig_eq_mergeLayers`).  In both the
layers of the far end lie lowest, and the first layer that cannot be laid over those below it
decides the error.
-/

namespace LayeredConfig

namespace ReleasesDocument

variable {doc : ReleasesDocument}

section Layers

variable {layer : Assembly → Tree → Except Error Tree} {layersOf : String → List Tree}

/-- If every name lays some trees over what it inherits, a pass over several names lays the
trees of all of them over it. -/
theorem foldlM_layerAt_eq_mergeLayers
    (hlayer : ∀ name inherited,
      doc.layerAt layer inherited name = Tree.mergeLayers (layersOf name) inherited)
    (names : List String) (base : Tree) :
  names.foldlM (doc.layerAt layer) base = Tree.mergeLayers (names.flatMap layersOf) base
  := by
  induction names generalizing base with
  | nil => rfl
  | cons name names ih =>
    rw [List.foldlM_cons, List.flatMap_cons, Tree.mergeLayers_append, hlayer]
    congr 1
    funext merged
    apply ih

/-- If every name lays some trees over what it inherits, the chain lays the trees of all its
names over the seed, those of the far end lowest. -/
theorem resolve_eq_mergeLayers
    (hlayer : ∀ name inherited,
      doc.layerAt layer inherited name = Tree.mergeLayers (layersOf name) inherited)
    {name : String} {path : List String} (hc : doc.chain name = .ok path) (seed : Tree) :
  doc.resolve (some name) layer seed = Tree.mergeLayers (path.reverse.flatMap layersOf) seed
  := by
  rw [resolve_some, hc]
  apply foldlM_layerAt_eq_mergeLayers hlayer

end Layers

/-! ### The configuration of the group -/

/-- The groups of named assemblies, in the order of the names: of each one that is defined its
group, if it has one that counts as true. -/
def groupLayers (doc : ReleasesDocument) (names : List String) : List Tree :=
  names.filterMap fun name => ((doc.assembly? name).bind Assembly.group?).filter Tree.isTruthy

theorem layerAt_groupLayer (name : String) (inherited : Tree) :
  doc.layerAt groupLayer inherited name
    = Tree.mergeLayers (((doc.assembly? name).bind Assembly.group?).filter Tree.isTruthy).toList
        inherited
  := by
  cases ha : doc.assembly? name with
  | none => apply layerAt_of_undefined ha
  | some target =>
    rw [layerAt_of_defined ha, groupLayer, Option.bind_some]
    cases target.group?.filter Tree.isTruthy with
    | none => rfl
    | some group => exact (bind_pure _).symm

/-- The configuration of the group is the seed with the groups of the chain laid over it, that
of the far end lowest; it fails with the first group that cannot be laid over those below. -/
theorem groupConfig_eq_mergeLayers {name : String} {path : List String}
    (hc : doc.chain name = .ok path) (seed : Tree) :
  doc.groupConfig (some name) seed = Tree.mergeLayers (doc.groupLayers path.reverse) seed
    ∧ ∀ e, doc.groupConfig (some name) seed = .error e
      ↔ Tree.FirstFailure (doc.groupLayers path.reverse) seed e
  := by
  have heq : doc.groupConfig (some name) seed
      = Tree.mergeLayers (doc.groupLayers path.reverse) seed := by
    rw [groupLayers, List.filterMap_eq_flatMap_toList]
    apply resolve_eq_mergeLayers layerAt_groupLayer hc
  use heq
  intro e
  rw [heq]
  apply Tree.mergeLayers_eq_error_iff

theorem groupConfig_stackedReleases :
  stackedReleases.chain "4.8.2" = .ok ["4.8.2", "4.8.1", "4.8.0", "4.7.9"]
    ∧ stackedReleases.groupConfig (some "4.8.2") (.mapping [("arch", .string "x86_64")])
      = .ok (.mapping [("arch", .string "x86_64"), ("name", .string "base"),
        ("vars", .mapping [("patch", .integer 2)])])
  := by
  use chain_stackedReleases
  apply (groupConfig_eq_mergeLayers chain_stackedReleases _).1.trans
  rfl

end ReleasesDocument

/-! ### The metadata of a component -/

/-- The metadata that an entry of a list of members lays over that of a component: the entry
is for every component or for this one, and its metadata counts as true. -/
def Tree.metadataFor? (entry : Tree) (key : String) : Option Tree :=
  if entry.get? "distgit_key" = some (.string "*") ∨ entry.get? "distgit_key" = some (.string key)
  then (entry.get? "metadata").filter Tree.isTruthy
  else none

theorem MemberOverride.layerFor_ofEntry (entry : Tree) (key : String) :
  (MemberOverride.ofEntry entry).layerFor key = entry.metadataFor? key
  := by
  have happlies : (MemberOverride.ofEntry entry).appliesTo key = true
      ↔ entry.get? "distgit_key" = some (.string "*")
        ∨ entry.get? "distgit_key" = some (.string key) := by
    rw [appliesTo_iff, ← Tree.bind_string?_eq_some_iff, ← Tree.bind_string?_eq_some_iff]
    rfl
  rw [layerFor, Tree.metadataFor?]
  simp only [happlies]
  rfl

namespace ReleasesDocument

variable {doc : ReleasesDocument}

/-- The entries of the list of members of a kind that the assembly of a given name has. -/
def memberEntries (doc : ReleasesDocument) (kind : MemberKind) (name : String) : List Tree :=
  match (doc.assembly? name).bind fun target =>
    target.definition.lookup ["members", kind.membersKey] with
  | some members => members.items
  | none => []

/-- The metadata that named assemblies lay over that of a component, in the order of the names
and in each one in the order of its list of members. -/
def metadataLayers (doc : ReleasesDocument) (kind : MemberKind) (key : String)
    (names : List String) : List Tree :=
  names.flatMap fun name =>
    (doc.memberEntries kind name).filterMap fun entry => entry.metadataFor? key

theorem memberLayers_eq {name : String} {target : Assembly} (ha : doc.assembly? name = some target)
    (kind : MemberKind) (key : String) :
  target.memberLayers kind key
    = (doc.memberEntries kind name).filterMap fun entry => entry.metadataFor? key
  := by
  rw [memberEntries, ha, Option.bind_some, Assembly.memberLayers, Assembly.members]
  cases target.definition.lookup ["members", kind.membersKey] with
  | none => rfl
  | some members =>
    simp only [List.filterMap_map, Function.comp_def, MemberOverride.layerFor_ofEntry]

theorem layerAt_memberLayer (kind : MemberKind) (key : String) (name : String) (inherited : Tree) :
  doc.layerAt (memberLayer kind key) inherited name
    = Tree.mergeLayers
        ((doc.memberEntries kind name).filterMap fun entry => entry.metadataFor? key) inherited
  := by
  cases ha : doc.assembly? name with
  | none =>
    rw [layerAt_of_undefined ha, memberEntries, ha]
    rfl
  | some target => rw [layerAt_of_defined ha, memberLayer, memberLayers_eq ha]

/-- The metadata of a component is the seed with the metadata of the matching entries of the
chain laid over it: that of the far end lowest, and in each assembly that of its first entry
lowest.  It fails with the first of them that cannot be laid over those below. -/
theorem memberConfig_eq_mergeLayers {name : String} {path : List String}
    (hc : doc.chain name = .ok path) (kind : MemberKind) (key : String) (seed : Tree) :
  doc.memberConfig (some name) kind key seed
      = Tree.mergeLayers (doc.metadataLayers kind key path.reverse) seed
    ∧ ∀ e, doc.memberConfig (some name) kind key seed = .error e
      ↔ Tree.FirstFailure (doc.metadataLayers kind key path.reverse) seed e
  := by
  have heq : doc.memberConfig (some name) kind key seed
      = Tree.mergeLayers (doc.metadataLayers kind key path.reverse) seed := by
    apply resolve_eq_mergeLayers (layerAt_memberLayer kind key) hc
  use heq
  intro e
  rw [heq]
  apply Tree.mergeLayers_eq_error_iff

theorem memberConfig_stackedReleases :
  stackedReleases.chain "4.8.2" = .ok ["4.8.2", "4.8.1", "4.8.0", "4.7.9"]
    ∧ stackedReleases.memberConfig (some "4.8.2") .package "kuryr" (.mapping [("mode", .null)])
      = .ok (.mapping [("mode", .string "auto"), ("owner", .string "network")])
  := by
  use chain_stackedReleases
  apply (memberConfig_eq_mergeLayers chain_stackedReleases .package "kuryr" _).1.trans
  rfl

/-! ### Ordered layers -/

section

variable {kind : MemberKind} {key name : String}

/-- The members of an ordered document are ordered. -/
theorem ordered_of_mem_memberEntries (ho : doc.root.Ordered) {entry : Tree}
    (h : entry ∈ doc.memberEntries kind name) :
  entry.Ordered
  := by
  rw [memberEntries] at h
  split at h
  · next members hmembers =>
    obtain ⟨target, ha, hlookup⟩ := Option.bind_eq_some_iff.1 hmembers
    have hordered := (ordered_of_assembly? ho ha).lookup hlookup
    cases members with
    | sequence items => exact Tree.ordered_sequence_iff.1 hordered entry h
    | _ => cases h
  · cases h

/-- The metadata that the members of an ordered document lay over that of a component is ordered. -/
theorem ordered_of_metadataFor? {entry layer : Tree} (ho : entry.Ordered)
    (h : entry.metadataFor? key = some layer) :
  layer.Ordered
  := by
  rw [Tree.metadataFor?] at h
  split at h
  · apply ho.get? (Option.filter_eq_some_iff.1 h).1
  · cases h

theorem ordered_metadataLayers (ho : doc.root.Ordered) {names : List String} :
  ∀ layer ∈ doc.metadataLayers kind key names, layer.Ordered
  := by
  intro layer hlayer
  obtain ⟨name, -, hname⟩ := List.mem_flatMap.1 hlayer
  obtain ⟨entry, hentry, hmetadata⟩ := List.mem_filterMap.1 hname
  apply ordered_of_metadataFor? (ordered_of_mem_memberEntries ho hentry) hmetadata

end

end ReleasesDocument

end LayeredConfig
