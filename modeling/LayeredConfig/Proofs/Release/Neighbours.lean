import LayeredConfig.Proofs.Layering.Commutation
import LayeredConfig.Proofs.Layering.Path
import LayeredConfig.Proofs.Release.Agreement

/-!
# Neighbours in a list of members

Let two neighbouring entries of a list of members be for the same component, with metadata that is
apart.  Their order matters only for the configuration that they are laid over: if it is a mapping,
or if neither of them has a marked key, then the metadata of the component is the same in a document
in which they stand the other way round (`neighbours_commute`).  Over a value of another shape the
lower one of them keeps its marked keys (`order_of_neighbours_matters_over_null`).
-/

namespace LayeredConfig

namespace Tree

variable {entry first second below : Tree} {key : String} {xs ys : Entries Tree}

/-- An entry of a list of members is for a component, and has this metadata. -/
structure Overrides (entry : Tree) (key : String) (metadata : Entries Tree) : Prop where
  applies : (MemberOverride.ofEntry entry).appliesTo key = true
  metadata : entry.get? "metadata" = some (.mapping metadata)

/-- Empty metadata is not laid over anything. -/
theorem Overrides.metadataFor?_eq (h : entry.Overrides key xs) :
  entry.metadataFor? key = if xs.isEmpty then none else some (.mapping xs)
  := by
  rw [← MemberOverride.layerFor_ofEntry, MemberOverride.layerFor, if_pos h.applies]
  change (entry.get? "metadata").filter isTruthy = _
  rw [h.metadata]
  cases xs with
  | nil => rfl
  | cons e rest => rfl

/-- Entries with metadata that is apart can be laid in either order over a mapping, and over every
value if they have no marked keys. -/
theorem Overrides.mergeLayers_comm (hf : first.Overrides key xs) (hs : second.Overrides key ys)
    (hx : xs.Ascending) (hy : ys.Ascending) (h : Apart xs ys) (hb : below.Ordered)
    (hshape : (∃ entries, below = .mapping entries) ∨ Unmarked xs ∧ Unmarked ys
      ∨ xs = [] ∨ ys = [])
    (merged : Tree) :
  mergeLayers ((first.metadataFor? key).toList ++ (second.metadataFor? key).toList) below
      = .ok merged
    ↔ mergeLayers ((second.metadataFor? key).toList ++ (first.metadataFor? key).toList) below
      = .ok merged
  := by
  rw [hf.metadataFor?_eq, hs.metadataFor?_eq]
  cases xs with
  | nil => simp
  | cons e xs =>
    cases ys with
    | nil => simp
    | cons f ys =>
      apply (commuteOver_iff hx hy h hb).2
      rcases hshape with hmapping | hunmarked | hempty | hempty
      · exact .inl hmapping
      · exact .inr hunmarked
      · cases hempty
      · cases hempty

/-- Two stacks of layers that come to the same over what lies below them come to the same under what
lies above them. -/
theorem mergeLayers_congr_between {lower upper layers layers' : List Tree} {base : Tree}
    (h : ∀ below, mergeLayers lower base = .ok below → ∀ middle,
      mergeLayers layers below = .ok middle ↔ mergeLayers layers' below = .ok middle)
    (merged : Tree) :
  mergeLayers (lower ++ (layers ++ upper)) base = .ok merged
    ↔ mergeLayers (lower ++ (layers' ++ upper)) base = .ok merged
  := by
  have hbind : ∀ {x : Except Error Tree} {f : Tree → Except Error Tree},
      x.bind f = .ok merged ↔ ∃ a, x = .ok a ∧ f a = .ok merged := Except.bind_eq_ok_iff
  simp only [mergeLayers_append, hbind]
  apply exists_congr
  intro below
  apply and_congr_right
  intro hbelow
  apply exists_congr
  intro middle
  rw [h below hbelow]

end Tree

namespace ReleasesDocument

variable {doc doc' : ReleasesDocument} {kind : MemberKind} {key name owner : String}
  {lower upper : List Tree} {first second : Tree} {nearer farther : List String}

/-- Two documents differ at most in that two neighbouring members of one assembly stand the other
way round. -/
structure SwapsMembers (doc doc' : ReleasesDocument) (kind : MemberKind) (owner : String)
    (lower : List Tree) (first second : Tree) (upper : List Tree) : Prop where
  sameParents : ∀ name, doc.parent? name = doc'.parent? name
  sameMembers : ∀ name, name ≠ owner → doc.memberEntries kind name = doc'.memberEntries kind name
  members : doc.memberEntries kind owner = lower ++ first :: second :: upper
  members' : doc'.memberEntries kind owner = lower ++ second :: first :: upper

/-- The metadata that is laid over that of a component before a member that follows others in the
list of an assembly: that of the names behind the assembly on its chain, and that of these others. -/
def layersBelow (doc : ReleasesDocument) (kind : MemberKind) (key : String) (farther : List String)
    (lower : List Tree) : List Tree :=
  doc.metadataLayers kind key farther.reverse ++ lower.filterMap fun entry => entry.metadataFor? key

/-- Only a structured document has members. -/
theorem isStructured_of_memberEntries {entry : Tree} (h : entry ∈ doc.memberEntries kind name) :
  doc.isStructured = true
  := by
  rw [memberEntries] at h
  cases ha : doc.assembly? name with
  | some target => apply isStructured_of_assembly? ha
  | none =>
    rw [ha] at h
    cases h

theorem SwapsMembers.ordered_layersBelow
    (h : doc.SwapsMembers doc' kind owner lower first second upper) (ho : doc.root.Ordered) :
  ∀ layer ∈ doc.layersBelow kind key farther lower, layer.Ordered
  := by
  intro layer hlayer
  rcases List.mem_append.1 hlayer with hlayer | hlayer
  · apply ordered_metadataLayers ho layer hlayer
  · obtain ⟨entry, hentry, hmetadata⟩ := List.mem_filterMap.1 hlayer
    have hmember : entry ∈ doc.memberEntries kind owner := by
      rw [h.members]
      apply List.mem_append_left _ hentry
    apply ordered_of_metadataFor? (ordered_of_mem_memberEntries ho hmember) hmetadata

/-! ### The layers around two neighbours -/

/-- On a chain through an assembly with two neighbouring members, what these two lay stands between
the layers below them and those of the later members and the nearer names. -/
theorem metadataLayers_of_neighbours
    (h : doc.memberEntries kind owner = lower ++ first :: second :: upper) :
  doc.metadataLayers kind key (nearer ++ owner :: farther).reverse
    = doc.layersBelow kind key farther lower
      ++ (((first.metadataFor? key).toList ++ (second.metadataFor? key).toList)
        ++ (upper.filterMap (fun entry => entry.metadataFor? key)
          ++ doc.metadataLayers kind key nearer.reverse))
  := by
  simp only [metadataLayers, layersBelow, List.reverse_append, List.reverse_cons,
    List.flatMap_append, List.flatMap_cons, List.flatMap_nil, List.filterMap_eq_flatMap_toList,
    h, List.nil_append, List.append_assoc]

theorem SwapsMembers.metadataLayers_eq
    (h : doc.SwapsMembers doc' kind owner lower first second upper) {names : List String}
    (hnames : owner ∉ names) :
  doc'.metadataLayers kind key names = doc.metadataLayers kind key names
  := by
  apply List.flatMap_congr
  intro name hname
  have hne : name ≠ owner := by
    rintro rfl
    exact hnames hname
  rw [h.sameMembers name hne]

/-- Beside the two neighbours nothing changes. -/
theorem SwapsMembers.metadataLayers_swapped
    (h : doc.SwapsMembers doc' kind owner lower first second upper)
    (hnodup : (nearer ++ owner :: farther).Nodup) :
  doc'.metadataLayers kind key (nearer ++ owner :: farther).reverse
    = doc.layersBelow kind key farther lower
      ++ (((second.metadataFor? key).toList ++ (first.metadataFor? key).toList)
        ++ (upper.filterMap (fun entry => entry.metadataFor? key)
          ++ doc.metadataLayers kind key nearer.reverse))
  := by
  obtain ⟨-, hfarther, hnearer⟩ := List.nodup_append.1 hnodup
  have howner : owner ∉ nearer := fun hm => hnearer owner hm owner List.mem_cons_self rfl
  rw [metadataLayers_of_neighbours h.members', layersBelow, layersBelow,
    h.metadataLayers_eq (mt List.mem_reverse.1 (List.nodup_cons.1 hfarther).1),
    h.metadataLayers_eq (mt List.mem_reverse.1 howner)]

/-! ### The metadata of a component -/

/-- No name stands twice on a chain. -/
theorem nodup_of_chain {path : List String} (hc : doc.chain name = .ok path) :
  path.Nodup
  := by
  by_cases ha : doc.isStructured = true ∧ name ≠ ""
  · apply ((chain_eq_ok_iff ha.1 ha.2).1 hc).nodup
  · cases (chain_of_inactive ha).symm.trans hc
    apply List.nodup_nil

theorem SwapsMembers.chain_eq
    (h : doc.SwapsMembers doc' kind owner lower first second upper) (name : String) :
  doc.chain name = doc'.chain name
  := by
  have hmember : first ∈ doc.memberEntries kind owner := by simp [h.members]
  have hmember' : first ∈ doc'.memberEntries kind owner := by simp [h.members']
  have hs := isStructured_of_memberEntries hmember
  have hs' := isStructured_of_memberEntries hmember'
  apply chain_congr (hs.trans hs'.symm)
  intro other _
  apply h.sameParents

/-- If two neighbours come to the same in either order over what lies below them, the metadata of the
component does not depend on their order. -/
theorem SwapsMembers.memberConfig_iff
    (h : doc.SwapsMembers doc' kind owner lower first second upper) {seed : Tree}
    (hcomm : ∀ nearer farther below, doc.chain name = .ok (nearer ++ owner :: farther) →
      Tree.mergeLayers (doc.layersBelow kind key farther lower) seed = .ok below → ∀ middle,
      Tree.mergeLayers ((first.metadataFor? key).toList ++ (second.metadataFor? key).toList) below
          = .ok middle
        ↔ Tree.mergeLayers ((second.metadataFor? key).toList ++ (first.metadataFor? key).toList)
            below = .ok middle)
    (merged : Tree) :
  doc.memberConfig (some name) kind key seed = .ok merged
    ↔ doc'.memberConfig (some name) kind key seed = .ok merged
  := by
  cases hc : doc.chain name with
  | error e =>
    have hc' := (h.chain_eq name).symm.trans hc
    rw [memberConfig, memberConfig, resolve_some, resolve_some, hc, hc']
    rfl
  | ok path =>
    have hc' := (h.chain_eq name).symm.trans hc
    have hconfig : doc.memberConfig (some name) kind key seed
        = Tree.mergeLayers (doc.metadataLayers kind key path.reverse) seed := by
      apply resolve_eq_mergeLayers (layerAt_memberLayer kind key) hc
    have hconfig' : doc'.memberConfig (some name) kind key seed
        = Tree.mergeLayers (doc'.metadataLayers kind key path.reverse) seed := by
      apply resolve_eq_mergeLayers (layerAt_memberLayer kind key) hc'
    rw [hconfig, hconfig']
    by_cases howner : owner ∈ path
    · obtain ⟨nearer, farther, rfl⟩ := List.append_of_mem howner
      rw [metadataLayers_of_neighbours h.members, h.metadataLayers_swapped (nodup_of_chain hc)]
      apply Tree.mergeLayers_congr_between
      intro below hbelow
      apply hcomm nearer farther below hc hbelow
    · rw [h.metadataLayers_eq (mt List.mem_reverse.1 howner)]

/-- Overlays that are apart can be laid over a mapping in either order: both orders fail, or both
give the same mapping.  Over a value of another shape this holds exactly if neither of them has a
marked key.  So two neighbouring members that are for the same component, with metadata that is
apart, can stand in either order without a change of what is resolved for the component, if what the
layers below make of the seed is a mapping, or if neither of them has a marked key, or one of them
has nothing in it. -/
theorem neighbours_commute {xs ys : Entries Tree} (hx : xs.Ascending) (hy : ys.Ascending)
    (h : Tree.Apart xs ys) :
  (∀ base : Entries Tree, base.Ascending → Tree.CommuteOver xs ys (.mapping base)
      ∧ ∀ merged, Tree.mergeLayers [.mapping xs, .mapping ys] (.mapping base) = .ok merged →
        ∃ entries, merged = .mapping entries)
    ∧ (∀ other : Tree, other.mapping? = none →
      (Tree.CommuteOver xs ys other ↔ Tree.Unmarked xs ∧ Tree.Unmarked ys))
    ∧ ∀ {doc doc' : ReleasesDocument} {kind : MemberKind} {key owner : String}
        {lower upper : List Tree} {first second : Tree},
      doc.root.Ordered → doc.SwapsMembers doc' kind owner lower first second upper →
      first.Overrides key xs → second.Overrides key ys →
      ∀ (name : String) (seed : Tree), seed.Ordered →
        (∀ nearer farther below, doc.chain name = .ok (nearer ++ owner :: farther) →
          Tree.mergeLayers (doc.layersBelow kind key farther lower) seed = .ok below →
          (∃ entries, below = .mapping entries) ∨ Tree.Unmarked xs ∧ Tree.Unmarked ys
            ∨ xs = [] ∨ ys = []) →
        ∀ merged, doc.memberConfig (some name) kind key seed = .ok merged
          ↔ doc'.memberConfig (some name) kind key seed = .ok merged
  := by
  refine ⟨?overMappings, ?overOtherValues, ?inDocuments⟩
  case overMappings =>
    intro base hb
    use Tree.commuteOver_of_mapping hx hy h hb
    intro merged hmerged
    obtain ⟨-, upper, -, -, rfl⟩ := Tree.mergeLayers_mapping_eq_ok_iff.1 hmerged
    use upper
  case overOtherValues =>
    intro other ho
    apply Tree.commuteOver_iff_of_other_shape hx hy h ho
  case inDocuments =>
    intro doc doc' kind key owner lower upper first second ho hswap hfirst hsecond name seed hseed
      hshape
    apply hswap.memberConfig_iff
    intro nearer farther below hc hbelow
    have hordered := Tree.Ordered.mergeLayers hseed (hswap.ordered_layersBelow ho) hbelow
    apply hfirst.mergeLayers_comm hsecond hx hy h hordered (hshape nearer farther below hc hbelow)

/-! ### Neighbours that touch different names -/

/-- A release with two packages, and one that is built on it. -/
def pairedReleases (first second : Tree) : ReleasesDocument where
  root := .mapping [("releases", .mapping [
    ("4.8.0", release [] [("members", .mapping [("rpms", .sequence [first, second])])]),
    ("4.8.1", release [("assembly", .string "4.8.0")] [("members", .mapping [
      ("rpms", .sequence [memberEntry "kuryr" [("mode?", .string "none")]])])])])]

theorem swapsMembers_pairedReleases (first second : Tree) :
  (pairedReleases first second).SwapsMembers (pairedReleases second first) .package "4.8.0" []
    first second []
  := by
  have hsame : ∀ name, name ≠ "4.8.0" →
      (pairedReleases first second).assembly? name
        = (pairedReleases second first).assembly? name := by
    intro name hname
    have hfind : (pairedReleases first second).releases.find? name
        = (pairedReleases second first).releases.find? name :=
      (if_neg hname.symm).trans (if_neg hname.symm).symm
    rw [assembly?, assembly?, hfind]
  constructor
  case sameParents =>
    intro name
    by_cases hname : name = "4.8.0"
    · subst hname
      rfl
    · rw [parent?, parent?, hsame name hname]
  case sameMembers =>
    intro name hname
    rw [memberEntries, memberEntries, hsame name hname]
  case members => rfl
  case members' => rfl

theorem overrides_memberEntry {own : String} {metadata : List (String × Tree)}
    (h : own = MemberOverride.wildcard ∨ own = key) :
  (memberEntry own metadata).Overrides key metadata
  where
  applies := MemberOverride.appliesTo_iff.2 (h.imp (congrArg some) (congrArg some))
  metadata := rfl

/-- A package that overrides its mode. -/
def modeMember : Tree := memberEntry "kuryr" [("mode!", .string "auto")]

/-- The owner of every package. -/
def ownerMember : Tree := memberEntry "*" [("owner", .string "network")]

theorem apart_mode_owner :
  Tree.Apart [("mode!", .string "auto")] [("owner", .string "network")]
  := by
  simp only [Tree.Apart, List.forall_mem_singleton]
  decide

theorem chain_pairedReleases :
  (pairedReleases modeMember ownerMember).chain "4.8.1" = .ok ["4.8.1", "4.8.0"]
  := by decide +kernel

theorem neighbours_commute_pairedReleases :
  Tree.CommuteOver [("mode!", .string "auto")] [("owner", .string "network")]
      (.mapping [("mode", .null)])
    ∧ ¬ Tree.CommuteOver [("mode!", .string "auto")] [("owner", .string "network")] .null
    ∧ (∀ merged,
      (pairedReleases modeMember ownerMember).memberConfig (some "4.8.1") .package "kuryr"
          (.mapping [("mode", .null)]) = .ok merged
        ↔ (pairedReleases ownerMember modeMember).memberConfig (some "4.8.1") .package "kuryr"
          (.mapping [("mode", .null)]) = .ok merged)
    ∧ (pairedReleases modeMember ownerMember).memberConfig (some "4.8.1") .package "kuryr"
        (.mapping [("mode", .null)])
      = .ok (.mapping [("mode", .string "auto"), ("owner", .string "network")])
  := by
  obtain ⟨hmapping, hother, hdocuments⟩ :=
    neighbours_commute (by decide) (by decide) apart_mode_owner
  refine ⟨(hmapping _ (by decide)).1, ?_, ?_, by decide +kernel⟩
  · rw [hother .null rfl]
    rintro ⟨hunmarked, -⟩
    cases hunmarked _ List.mem_cons_self
  · apply hdocuments (by decide +kernel) (swapsMembers_pairedReleases _ _)
      (overrides_memberEntry (.inr rfl)) (overrides_memberEntry (.inl rfl)) _ _ (by decide)
    intro nearer farther below hc hbelow
    have hpath := Except.ok.inj (chain_pairedReleases.symm.trans hc)
    rcases nearer with _ | ⟨_, _ | ⟨_, _⟩⟩
    · simp at hpath
    · obtain ⟨-, rfl⟩ : _ ∧ farther = [] := by simpa using hpath.symm
      exact .inl ⟨_, (Except.ok.inj hbelow).symm⟩
    · simp at hpath

/-- Over null the lower one of two members keeps its marked key, and so their order is seen. -/
theorem order_of_neighbours_matters_over_null :
  Tree.Apart [("mode!", .string "auto")] [("owner", .string "network")]
    ∧ modeMember.Overrides "kuryr" [("mode!", .string "auto")]
    ∧ ownerMember.Overrides "kuryr" [("owner", .string "network")]
    ∧ (pairedReleases modeMember ownerMember).SwapsMembers
      (pairedReleases ownerMember modeMember) .package "4.8.0" [] modeMember ownerMember []
    ∧ (pairedReleases modeMember ownerMember).memberConfig (some "4.8.0") .package "kuryr" .null
      = .ok (.mapping [("mode!", .string "auto"), ("owner", .string "network")])
    ∧ (pairedReleases ownerMember modeMember).memberConfig (some "4.8.0") .package "kuryr" .null
      = .ok (.mapping [("mode", .string "auto"), ("owner", .string "network")])
  := by
  refine ⟨apart_mode_owner, overrides_memberEntry (.inr rfl), overrides_memberEntry (.inl rfl),
    swapsMembers_pairedReleases _ _, by decide +kernel, by decide +kernel⟩

end ReleasesDocument

end LayeredConfig
