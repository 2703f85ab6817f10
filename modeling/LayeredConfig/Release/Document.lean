import LayeredConfig.Datum
import LayeredConfig.Release.Assembly

/-!
# Documents of releases

A `ReleasesDocument` is a tree whose mapping `releases` gives each release, among other
things, the definition of an assembly.  A document that is not a mapping is unstructured and
defines no assembly.  To sources and sinks a document is its tree.
-/

namespace LayeredConfig

/-- A document of releases. -/
structure ReleasesDocument where
  root : Tree
  deriving DecidableEq

namespace ReleasesDocument

/-- The document without content. -/
def empty : ReleasesDocument := ⟨.null⟩

/-- The document that a datum offers: the one whose root it offers. -/
def ofDatum (d : Datum) : Except DatumRejection ReleasesDocument := (Tree.ofDatum d).map mk

/-- The datum that the document is offered as: that of its root. -/
def toDatum (doc : ReleasesDocument) : Datum := doc.root.toDatum

/-- Whether the document is a mapping. -/
def isStructured (doc : ReleasesDocument) : Bool := doc.root.mapping?.isSome

/-- The releases of the document, in ascending order of their names. -/
def releases (doc : ReleasesDocument) : Entries Tree :=
  ((doc.root.get? "releases").bind Tree.mapping?).getD []

/-- The names of the releases. -/
def names (doc : ReleasesDocument) : List String := doc.releases.keys

/-- The assembly of a given name. -/
def assembly? (doc : ReleasesDocument) (name : String) : Option Assembly :=
  ((doc.releases.find? name).bind fun release => release.get? "assembly").map fun definition =>
    ⟨name, definition⟩

/-- The name of the assembly that the assembly of a given name is built on. -/
def parent? (doc : ReleasesDocument) (name : String) : Option String :=
  (doc.assembly? name).bind Assembly.parent?

theorem name_eq_of_assembly? {doc : ReleasesDocument} {name : String} {a : Assembly}
    (h : doc.assembly? name = some a) :
  a.name = name
  := by
  obtain ⟨_, _, rfl⟩ := Option.map_eq_some_iff.1 h
  rfl

/-- An assembly belongs to a release. -/
theorem mem_names_of_assembly? {doc : ReleasesDocument} {name : String} {a : Assembly}
    (h : doc.assembly? name = some a) :
  name ∈ doc.names
  := by
  obtain ⟨_, h, _⟩ := Option.map_eq_some_iff.1 h
  obtain ⟨release, hr, _⟩ := Option.bind_eq_some_iff.1 h
  exact Entries.mem_keys_iff.2 ⟨release, hr⟩

theorem parent?_ne_empty {doc : ReleasesDocument} {name parent : String}
    (h : doc.parent? name = some parent) :
  parent ≠ ""
  := by
  obtain ⟨_, _, ha⟩ := Option.bind_eq_some_iff.1 h
  exact Assembly.parent?_ne_empty ha

theorem mem_names_of_parent? {doc : ReleasesDocument} {name parent : String}
    (h : doc.parent? name = some parent) :
  name ∈ doc.names
  := by
  obtain ⟨a, ha, _⟩ := Option.bind_eq_some_iff.1 h
  exact mem_names_of_assembly? ha

/-- The definitions of an ordered document are ordered. -/
theorem ordered_of_assembly? {doc : ReleasesDocument} {name : String} {target : Assembly}
    (ho : doc.root.Ordered) (h : doc.assembly? name = some target) :
  target.definition.Ordered
  := by
  obtain ⟨definition, hd, rfl⟩ := Option.map_eq_some_iff.1 h
  obtain ⟨release, hr, hdefinition⟩ := Option.bind_eq_some_iff.1 hd
  have hreleases : ∀ e ∈ doc.releases, e.2.Ordered := by
    rw [releases]
    cases hroot : doc.root.get? "releases" with
    | none => exact List.forall_mem_nil _
    | some list =>
      have hlist := ho.get? hroot
      cases list with
      | mapping entries => exact (Tree.ordered_mapping_iff.1 hlist).2
      | _ => exact List.forall_mem_nil _
  apply Tree.Ordered.get? (hreleases _ (Entries.mem_of_find? hr)) hdefinition

end ReleasesDocument

end LayeredConfig
