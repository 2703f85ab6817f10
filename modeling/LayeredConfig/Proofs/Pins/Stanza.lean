import LayeredConfig.Proofs.Layering.Path
import LayeredConfig.Proofs.Pins.Dependency
import LayeredConfig.Proofs.Release.Configuration
import Mathlib.Data.List.Forall2

/-!
# The build that a stanza fixes for a package

The stanza `is` of the metadata of a package has the builds of the package by el versions
(`pinPath`).  If the layers of a chain have no marked keys on the way to a build, and have a scalar
there, then the build in force is that of the nearest layer with one, or else that of the seed,
whatever the layers have for other el versions (`nearest_pin_in_force`).
-/

namespace LayeredConfig

namespace Tree

variable {t layer base merged seed : Tree} {layers : List Tree} {el : UInt32} {key text : String}

/-! ### The reader -/

/-- The path of what a stanza has for an el version. -/
def pinPath (el : UInt32) : List String := ["is", elKey el]

theorem lookup_pinPath (t : Tree) (el : UInt32) :
  t.lookup (pinPath el) = (t.get? "is").bind fun stanza => stanza.get? (elKey el)
  := by
  simp only [pinPath, lookup, Option.bind_fun_some]

/-- A stanza that does not count as true has no text. -/
theorem nonemptyString?_of_isTruthy_eq_false {stanza : Tree} (h : stanza.isTruthy = false)
    (key : String) :
  stanza.nonemptyString? key = none
  := by
  cases stanza with
  | mapping entries =>
    cases entries with
    | nil => rfl
    | cons e rest => cases h
  | _ => rfl

/-- The build of a package is the text at its path, unless this is empty. -/
theorem pinnedNvr_package (t : Tree) (key : String) (el : UInt32) :
  t.pinnedNvr .package key (some el)
    = .ok (((t.lookup (pinPath el)).bind string?).filter fun s => !s.isEmpty)
  := by
  rw [lookup_pinPath]
  unfold pinnedNvr
  cases t.get? "is" with
  | none => rfl
  | some stanza =>
    change _ = Except.ok (stanza.nonemptyString? (elKey el))
    rw [Option.filter_some]
    cases htruthy : stanza.isTruthy with
    | true => rfl
    | false =>
      rw [nonemptyString?_of_isTruthy_eq_false htruthy]
      rfl

/-! ### One layer -/

/-- A layer is a mapping with plain keys for the stanza and, where it has one, for an el version in
it; the stanza is a mapping and has nothing but a scalar for the el version. -/
inductive PinsPlainly (el : UInt32) : Tree → Prop where
  | unpinned {entries : Entries Tree} : PlainFor entries "is" → entries.find? "is" = none →
    PinsPlainly el (.mapping entries)
  | stanza {entries stanza : Entries Tree} : PlainFor entries "is" →
    entries.find? "is" = some (.mapping stanza) → PlainFor stanza (elKey el) →
    (∀ value, stanza.find? (elKey el) = some value → value.isScalar = true) →
    PinsPlainly el (.mapping entries)

/-- A layer decides the build of an el version that it has, and leaves any other one. -/
theorem PinsPlainly.lookup_mergeOver (hl : layer.PinsPlainly el) (ho : layer.Ordered)
    (h : layer.mergeOver base = .ok merged) :
  merged.lookup (pinPath el) = (layer.lookup (pinPath el)).or (base.lookup (pinPath el))
  := by
  simp only [lookup_pinPath]
  cases hl with
  | @unpinned entries hplain hnone =>
    have hscalar : ∀ value, entries.find? "is" = some value → value.isScalar = true := by
      rw [hnone]
      rintro _ ⟨⟩
    rw [get?_mergeOver_of_plainFor ho h (by decide) hplain hscalar, get?_mapping, hnone]
    rfl
  | @stanza entries stanza hplain hstanza hkeys hscalar =>
    have hlay := get?_mergeOver ho h (by decide) hplain.override hstanza
    rw [get?_mapping, hstanza, Option.bind_some]
    cases hbelow : base.get? "is" with
    | none =>
      rw [hbelow] at hlay
      rw [← Except.ok.inj hlay, Option.bind_some, Option.bind_none, Option.or_none]
    | some below =>
      rw [hbelow] at hlay
      obtain ⟨combined, hcombined, hmerged⟩ := Except.map_eq_ok_iff.1 hlay
      rw [← hmerged, Option.bind_some, Option.bind_some]
      exact get?_mergeOver_of_plainFor (ho.get? hstanza) hcombined (isMarked_elKey el) hkeys hscalar

/-! ### Several layers -/

/-- What decides the build of an el version is the last layer that has something for it, or else the
seed. -/
inductive Decides (layers : List Tree) (seed : Tree) (el : UInt32) : Tree → Prop where
  | layer {lower upper : List Tree} {layer value : Tree} : layers = lower ++ layer :: upper →
    layer.lookup (pinPath el) = some value →
    (∀ other ∈ upper, other.lookup (pinPath el) = none) → Decides layers seed el value
  | seed {value : Tree} : (∀ layer ∈ layers, layer.lookup (pinPath el) = none) →
    seed.lookup (pinPath el) = some value → Decides layers seed el value

/-- After layers are laid over a seed, what is found for an el version is what decides it. -/
theorem lookup_pinPath_mergeLayers (hplain : ∀ layer ∈ layers, layer.PinsPlainly el)
    (ho : ∀ layer ∈ layers, layer.Ordered) (h : mergeLayers layers seed = .ok merged) :
  merged.lookup (pinPath el)
    = (layers.filterMap fun layer => layer.lookup (pinPath el)).getLast?.or
        (seed.lookup (pinPath el))
  := by
  have hstep : ∀ layer ∈ layers, ∀ below next : Tree, layer.mergeOver below = .ok next →
      next.lookup (pinPath el)
        = (layer.lookup (pinPath el)).or (below.lookup (pinPath el)) :=
    fun layer hm below next hnext => (hplain layer hm).lookup_mergeOver (ho layer hm) hnext
  apply List.read_of_foldlM hstep h

theorem decides_iff {value : Tree} :
  Decides layers seed el value
    ↔ (layers.filterMap fun layer => layer.lookup (pinPath el)).getLast?.or
        (seed.lookup (pinPath el)) = some value
  := by
  rw [Option.or_eq_some_iff, List.getLast?_filterMap_eq_some_iff, List.getLast?_eq_none_iff,
    List.filterMap_eq_nil_iff]
  constructor
  · rintro (⟨hsplit, hlayer, hupper⟩ | ⟨hnone, hseed⟩)
    · exact .inl ⟨_, _, _, hsplit, hlayer, hupper⟩
    · exact .inr ⟨hnone, hseed⟩
  · rintro (⟨_, _, _, hsplit, hlayer, hupper⟩ | ⟨hnone, hseed⟩)
    · exact .layer hsplit hlayer hupper
    · exact .seed hnone hseed

/-! ### Builds for other el versions -/

/-- Two trees have the same in their stanzas, but for the keys of other el versions, plain or
marked. -/
def PinsAlike (el : UInt32) (t t' : Tree) : Prop :=
  ∀ key, (∀ other, other ≠ el → (MergeKey.parse key).name ≠ elKey other) →
    t.lookup ["is", key] = t'.lookup ["is", key]

theorem PinsAlike.lookup_pinPath {t' : Tree} (h : PinsAlike el t t') :
  t.lookup (pinPath el) = t'.lookup (pinPath el)
  := by
  apply h
  intro other hother
  rw [MergeKey.parse_plain_iff.2 (isMarked_elKey el)]
  apply mt elKey_inj.1 hother.symm

theorem filterMap_lookup_pinPath_of_pinsAlike {layers' : List Tree}
    (h : List.Forall₂ (PinsAlike el) layers layers') :
  (layers.filterMap fun layer => layer.lookup (pinPath el))
    = layers'.filterMap fun layer => layer.lookup (pinPath el)
  := by
  induction h with
  | nil => rfl
  | cons hfirst _ ih => rw [List.filterMap_cons, List.filterMap_cons, hfirst.lookup_pinPath, ih]

end Tree

namespace ReleasesDocument

variable {doc : ReleasesDocument} {name key : String} {el : UInt32} {path : List String}
  {seed m : Tree}

/-- The metadata of a package is resolved along a chain that ends, in an ordered document, and all
its layers have plain builds for an el version. -/
structure ResolvesPins (doc : ReleasesDocument) (name key : String) (el : UInt32)
    (path : List String) (seed m : Tree) : Prop where
  ordered : doc.root.Ordered
  chain : doc.chain name = .ok path
  plain : ∀ layer ∈ doc.metadataLayers .package key path.reverse, layer.PinsPlainly el
  resolved : doc.memberConfig (some name) .package key seed = .ok m

theorem ResolvesPins.lookup_pinPath (h : doc.ResolvesPins name key el path seed m) :
  m.lookup (Tree.pinPath el)
    = ((doc.metadataLayers .package key path.reverse).filterMap fun layer =>
        layer.lookup (Tree.pinPath el)).getLast?.or (seed.lookup (Tree.pinPath el))
  := by
  have hmerge := resolve_eq_mergeLayers (layerAt_memberLayer .package key) h.chain seed
  apply Tree.lookup_pinPath_mergeLayers h.plain (ordered_metadataLayers h.ordered)
  exact hmerge.symm.trans h.resolved

/-- The build of a package for an el version is always read from its resolved metadata.  It is the
text that the last layer with something for the el version has there, or else the seed, and there is
none if this is the empty text or no text.  It is the same for another resolution whose seed and
layers differ in the builds for other el versions only. -/
theorem nearest_pin_in_force (h : doc.ResolvesPins name key el path seed m) :
  (∃ build, m.pinnedNvr .package key (some el) = .ok build
    ∧ ∀ text, build = some text ↔ text ≠ ""
      ∧ Tree.Decides (doc.metadataLayers .package key path.reverse) seed el (.string text))
    ∧ ∀ (doc' : ReleasesDocument) (name' : String) (path' : List String) (seed' m' : Tree),
      doc'.ResolvesPins name' key el path' seed' m' → Tree.PinsAlike el seed seed' →
      List.Forall₂ (Tree.PinsAlike el) (doc.metadataLayers .package key path.reverse)
        (doc'.metadataLayers .package key path'.reverse) →
      m'.pinnedNvr .package key (some el) = m.pinnedNvr .package key (some el)
  := by
  constructor
  · refine ⟨_, Tree.pinnedNvr_package m key el, ?_⟩
    intro text
    rw [Option.filter_eq_some_iff, Tree.bind_string?_eq_some_iff, h.lookup_pinPath,
      ← Tree.decides_iff, and_comm]
    simp
  · intro doc' name' path' seed' m' h' hseed hlayers
    rw [Tree.pinnedNvr_package, Tree.pinnedNvr_package, h'.lookup_pinPath, h.lookup_pinPath,
      Tree.filterMap_lookup_pinPath_of_pinsAlike hlayers, hseed.lookup_pinPath]

/-- Metadata with builds for two el versions. -/
def builds (el8 el9 : String) : List (String × Tree) :=
  [("is", .mapping [("el8", .string el8), ("el9", .string el9)])]

/-- Two releases built on each other; the lower one has builds for every package and for one, and
the upper one has a build of this package for el version 9 alone. -/
def pinnedReleases (build : String) : ReleasesDocument where
  root := .mapping [("releases", .mapping [
    ("4.9.0", release [] [("members", .mapping [("rpms", .sequence [
      memberEntry "*" (builds "placeholder-1-1.el8" "placeholder-1-1.el9"),
      memberEntry "clients" (builds "clients-4.9.0-1.el8" "")])])]),
    ("4.9.1", release [("assembly", .string "4.9.0")] [("members", .mapping [("rpms", .sequence [
      memberEntry "clients" [("is", .mapping [("el9", .string build)])]])])])])]

theorem resolvesPins_pinnedReleases {build : String} (ho : (pinnedReleases build).root.Ordered) :
  (pinnedReleases build).ResolvesPins "4.9.1" "clients" 8 ["4.9.1", "4.9.0"] (.mapping [])
    (.mapping (builds "clients-4.9.0-1.el8" build))
  := by
  have hchain : (pinnedReleases build).chain "4.9.1" = .ok ["4.9.1", "4.9.0"] :=
    (chain_eq_ok_iff rfl (by decide)).2 (.step rfl (.last rfl))
  constructor
  case ordered => exact ho
  case chain => exact hchain
  case resolved =>
    exact (resolve_eq_mergeLayers (layerAt_memberLayer .package "clients") hchain _).trans rfl
  case plain =>
    have hlayers : (pinnedReleases build).metadataLayers .package "clients" ["4.9.0", "4.9.1"]
        = [.mapping (builds "placeholder-1-1.el8" "placeholder-1-1.el9"),
          .mapping (builds "clients-4.9.0-1.el8" ""),
          .mapping [("is", .mapping [("el9", .string build)])]] := by rfl
    have hbuilds : ∀ el8 el9 : String, (Tree.mapping (builds el8 el9)).PinsPlainly 8 := by
      intro el8 el9
      refine .stanza ⟨rfl, rfl⟩ rfl ⟨rfl, rfl⟩ ?_
      rintro _ ⟨⟩
      rfl
    have hlast : (Tree.mapping [("is", .mapping [("el9", .string build)])]).PinsPlainly 8 := by
      refine .stanza ⟨rfl, rfl⟩ rfl ⟨rfl, rfl⟩ ?_
      rintro _ ⟨⟩
    change ∀ layer ∈ (pinnedReleases build).metadataLayers .package "clients" ["4.9.0", "4.9.1"], _
    rw [hlayers]
    simp only [List.forall_mem_cons]
    exact ⟨hbuilds _ _, hbuilds _ _, hlast, List.forall_mem_nil _⟩

/-- The build of the upper release for el version 9 does not matter for el version 8. -/
theorem nearest_pin_in_force_pinnedReleases :
  (Tree.mapping (builds "clients-4.9.0-1.el8" "")).pinnedNvr .package "clients" (some 8)
      = .ok (some "clients-4.9.0-1.el8")
    ∧ Tree.Decides ((pinnedReleases "").metadataLayers .package "clients" ["4.9.0", "4.9.1"])
      (.mapping []) 8 (.string "clients-4.9.0-1.el8")
    ∧ (Tree.mapping (builds "clients-4.9.0-1.el8" "clients-4.9.1-1.el9")).pinnedNvr .package
        "clients" (some 8)
      = (Tree.mapping (builds "clients-4.9.0-1.el8" "")).pinnedNvr .package "clients" (some 8)
  := by
  have hread : (Tree.mapping (builds "clients-4.9.0-1.el8" "")).pinnedNvr .package "clients"
      (some 8) = .ok (some "clients-4.9.0-1.el8") := by rfl
  have hempty := @resolvesPins_pinnedReleases "" (by decide +kernel)
  have hbuilt := @resolvesPins_pinnedReleases "clients-4.9.1-1.el9" (by decide +kernel)
  obtain ⟨⟨build, hbuild, htext⟩, hsame⟩ := nearest_pin_in_force hempty
  cases hread.symm.trans hbuild
  have hlast : Tree.PinsAlike 8 (.mapping [("is", .mapping [("el9", .string "")])])
      (.mapping [("is", .mapping [("el9", .string "clients-4.9.1-1.el9")])]) := by
    intro key hkey
    have hne : "el9" ≠ key := by
      rintro rfl
      exact hkey 9 (by decide) (by decide)
    simp [Tree.lookup, Entries.find?, hne]
  refine ⟨hread, ((htext _).1 rfl).2, ?_⟩
  apply hsame _ _ _ _ _ hbuilt (fun _ _ => rfl)
  exact .cons (fun _ _ => rfl) (.cons (fun _ _ => rfl) (.cons hlast .nil))

end ReleasesDocument

end LayeredConfig
