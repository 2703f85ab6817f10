import LayeredConfig.Proofs.Release.Walk
import LayeredConfig.Release.Resolution

/-!
# Inheriting along the chain of bases

What an assembly gives is defined by recursion: first what its basis gives, then its own
layer.  `resolve_some` turns this recursion into one pass over the chain, from the far end to
the requested assembly, in which an undefined name adds nothing; a chain that fails lets
nothing be inherited.
-/

namespace LayeredConfig.ReleasesDocument

variable {doc : ReleasesDocument} {α : Type} {layer : Assembly → α → Except Error α}

/-- What the assembly of a given name makes of what it inherits; an undefined one leaves it as
it is. -/
def layerAt (doc : ReleasesDocument) (layer : Assembly → α → Except Error α) (inherited : α)
    (name : String) : Except Error α :=
  match doc.assembly? name with
  | none => .ok inherited
  | some target => layer target inherited

theorem layerAt_of_undefined {name : String} (h : doc.assembly? name = none) (inherited : α) :
  doc.layerAt layer inherited name = .ok inherited
  := by rw [layerAt, h]

theorem layerAt_of_defined {name : String} {target : Assembly}
    (h : doc.assembly? name = some target) (inherited : α) :
  doc.layerAt layer inherited name = layer target inherited
  := by rw [layerAt, h]

/-! ### One step of the recursion -/

/-- A chain that fails lets nothing be inherited. -/
theorem inherit_of_chain_eq_error {name : String} {e : Error} (h : doc.chain name = .error e)
    (seed : α) :
  doc.inherit layer seed name = .error e
  := by
  have hn : name ≠ "" := by
    rintro rfl
    cases h
  rw [inherit, if_neg hn]
  split
  · next hc =>
    cases h.symm.trans hc
    rfl
  · next hc => cases h.symm.trans hc

/-- A name without a parent inherits the seed. -/
theorem inherit_of_root {name : String} {path : List String} (hn : name ≠ "")
    (hc : doc.chain name = .ok path) (hp : doc.parent? name = none) (seed : α) :
  doc.inherit layer seed name = doc.layerAt layer seed name
  := by
  rw [inherit, if_neg hn]
  split
  · next hc' => cases hc.symm.trans hc'
  · split
    · next ha => rw [layerAt_of_undefined ha]
    · next target ha =>
      rw [layerAt_of_defined ha]
      split
      · rfl
      · next ht => simp [parent?, ha, ht] at hp

/-- A name with a parent inherits what the parent gives. -/
theorem inherit_of_parent {name parent : String} {path : List String} (hn : name ≠ "")
    (hc : doc.chain name = .ok path) (hp : doc.parent? name = some parent) (seed : α) :
  doc.inherit layer seed name
    = (doc.inherit layer seed parent).bind fun inherited => doc.layerAt layer inherited name
  := by
  obtain ⟨target, ha, ht⟩ := Option.bind_eq_some_iff.1 hp
  rw [inherit, if_neg hn]
  split
  · next hc' => cases hc.symm.trans hc'
  · split
    · next ha' => cases ha.symm.trans ha'
    · next target' ha' =>
      cases ha.symm.trans ha'
      split
      · next ht' => cases ht.symm.trans ht'
      · next parent' ht' =>
        cases ht.symm.trans ht'
        cases doc.inherit layer seed parent with
        | error e => rfl
        | ok inherited => exact (layerAt_of_defined ha inherited).symm

/-! ### The whole chain -/

/-- What a name gives is made by the layers along its walk, that of the far end first. -/
theorem inherit_eq_foldlM {name : String} {path : List String} (hs : doc.isStructured = true)
    (hn : name ≠ "") (hl : doc.LeadsThrough name path) (seed : α) :
  doc.inherit layer seed name = path.reverse.foldlM (doc.layerAt layer) seed
  := by
  induction hl with
  | last h =>
    rw [inherit_of_root hn ((chain_eq_ok_iff hs hn).2 (.last h)) h]
    simp
  | step h hl ih =>
    rw [inherit_of_parent hn ((chain_eq_ok_iff hs hn).2 (.step h hl)) h,
      ih (parent?_ne_empty h), List.reverse_cons, List.foldlM_append]
    congr 1
    funext inherited
    simp

theorem active?_of_active {name : String} (hs : doc.isStructured = true) (hn : name ≠ "") :
  doc.active? (some name) = some name
  := by simp [active?, hs, hn]

theorem active?_of_inactive {name : String} (h : ¬ (doc.isStructured = true ∧ name ≠ "")) :
  doc.active? (some name) = none
  := by
  rw [active?, Option.filter_eq_none_iff]
  simpa using fun hn hs => h ⟨hs, hn⟩

/-- Where no assembly is in force, the chain is empty. -/
theorem chain_of_inactive {name : String} (h : ¬ (doc.isStructured = true ∧ name ≠ "")) :
  doc.chain name = .ok []
  := by
  rw [chain, if_pos]
  simpa [Decidable.or_iff_not_imp_left] using fun hn hs => h ⟨hs, hn⟩

/-- Resolving is one pass over the chain, from the far end to the requested assembly; it fails
at once where the chain fails. -/
theorem resolve_some (layer : Assembly → α → Except Error α) (name : String) (seed : α) :
  doc.resolve (some name) layer seed
    = (doc.chain name).bind fun path => path.reverse.foldlM (doc.layerAt layer) seed
  := by
  by_cases ha : doc.isStructured = true ∧ name ≠ ""
  · obtain ⟨hs, hn⟩ := ha
    rw [resolve, active?_of_active hs hn]
    cases hc : doc.chain name with
    | error e => apply inherit_of_chain_eq_error hc
    | ok path => apply inherit_eq_foldlM hs hn ((chain_eq_ok_iff hs hn).1 hc)
  · rw [resolve, active?_of_inactive ha, chain_of_inactive ha]
    rfl

/-! ### Releases built on each other -/

/-- An entry of a list of members. -/
def memberEntry (key : String) (metadata : List (String × Tree)) : Tree :=
  .mapping [("distgit_key", .string key), ("metadata", .mapping metadata)]

/-- Three releases built on each other, the lowest one on a name that is not defined. -/
def stackedReleases : ReleasesDocument where
  root := .mapping [("releases", .mapping [
    ("4.8.0", release [("assembly", .string "4.7.9")] [
      ("group", .mapping [("name", .string "base"), ("vars", .mapping [("minor", .integer 8)])]),
      ("members", .mapping [("rpms", .sequence [
        memberEntry "*" [("mode", .string "auto"), ("owner", .string "all")],
        memberEntry "etcd" [("owner", .string "storage")]])])]),
    ("4.8.1", release [("assembly", .string "4.8.0")] [("group", .mapping [])]),
    ("4.8.2", release [("assembly", .string "4.8.1")] [
      ("group", .mapping [("name?", .string "top"), ("vars!", .mapping [("patch", .integer 2)])]),
      ("members", .mapping [
        ("images", .sequence [memberEntry "kuryr" [("owner", .string "images")]]),
        ("rpms", .sequence [.string "kuryr", memberEntry "kuryr" [],
          memberEntry "kuryr" [("owner", .string "network")]])])])])]

theorem chain_stackedReleases :
  stackedReleases.chain "4.8.2" = .ok ["4.8.2", "4.8.1", "4.8.0", "4.7.9"]
  := by decide +kernel

end LayeredConfig.ReleasesDocument
