import LayeredConfig.Proofs.Layering.Mapping

/-!
# What a merge decides and what it leaves alone

At the end of a plain path a scalar of the overlay is the result, whatever the base has there or on
the way.  Where a plain path ends in a mapping of the overlay that has neither a plain nor an
overriding key for a name, all that the base has under this name stays as it is, at any depth
(`lookup_dominant_or_framed`).  A key that fills gaps does not disturb this, since there is no gap.
-/

namespace LayeredConfig.Tree

variable {top base merged : Tree}

/-- The overlay has no key that is written for a name as a plain one or to override. -/
def Spares (overlay : Entries Tree) (name : String) : Prop :=
  ∀ e ∈ overlay, MergeKey.parse e.1 ≠ ⟨name, .plain⟩ ∧ MergeKey.parse e.1 ≠ ⟨name, .override⟩

theorem Spares.find?_override {overlay : Entries Tree} {name : String} (h : Spares overlay name) :
  overlay.find? (MergeKey.written ⟨name, .override⟩) = none
  := by
  cases hfind : overlay.find? (MergeKey.written ⟨name, .override⟩) with
  | none => rfl
  | some value =>
    exact absurd (MergeKey.parse_override name) (h _ (Entries.mem_of_find? hfind)).2

theorem Spares.find?_plain {overlay : Entries Tree} {name : String} (h : Spares overlay name) :
  MergeKey.isMarked name = true ∨ overlay.find? name = none
  := by
  rw [← valueFor?_plain_eq_none_iff]
  cases hvalue : valueFor? overlay ⟨name, .plain⟩ with
  | none => rfl
  | some value =>
    have hparse := parse_written_of_valueFor? hvalue
    rw [valueFor?, if_pos hparse] at hvalue
    exact absurd hparse (h _ (Entries.mem_of_find? hvalue)).1

/-- A value under a spared name stays. -/
theorem LaidOver.eq_of_spares {overlay : Entries Tree} {name : String} {existing : Tree}
    {result : Option Tree} (h : LaidOver overlay name (some existing) result)
    (hs : Spares overlay name) :
  result = some existing
  := by
  cases hfall : overlay.find? (MergeKey.written ⟨name, .fallback⟩) with
  | none => apply h.of_none hs.find?_override hs.find?_plain hfall
  | some value => apply h.of_fallback hs.find?_override hs.find?_plain value hfall

/-- A mapping merged over another tree keeps what this has under a spared name. -/
theorem get?_mergeOver_of_spares {overlay : Entries Tree} (ho : overlay.Ascending)
    (h : (mapping overlay).mergeOver base = .ok merged) {name : String} (hs : Spares overlay name)
    {existing : Tree} (hexisting : base.get? name = some existing) :
  merged.get? name = some existing
  := by
  obtain ⟨below, rfl⟩ := exists_mapping_of_get? hexisting
  obtain ⟨entries, rfl, hname⟩ := exists_of_mergeOver_mapping ho h
  have hlaid := laidOver_of_layName (hname name)
  rw [get?_mapping] at hexisting ⊢
  rw [hexisting] at hlaid
  apply hlaid.eq_of_spares hs

/-- At the end of a plain path a scalar of the overlay is the result, whatever the shape of the base.
What the base has at the end of any path is the result too, if the path leaves a plain path at a
mapping of the overlay by a name that this spares. -/
theorem lookup_dominant_or_framed (ho : top.Ordered) (h : top.mergeOver base = .ok merged) :
  (∀ path scalar, top.PlainPath path → top.lookup path = some scalar → scalar.isScalar = true →
      merged.lookup path = some scalar)
    ∧ ∀ upper key lower (own : Entries Tree) value, top.PlainPath upper →
      top.lookup upper = some (.mapping own) → Spares own key →
      base.lookup (upper ++ key :: lower) = some value →
      merged.lookup (upper ++ key :: lower) = some value
  := by
  constructor
  · intro path scalar hp hscalar his
    have hlay := lookup_mergeOver ho h hp hscalar
    cases hbelow : base.lookup path with
    | none =>
      rw [hbelow] at hlay
      apply (Except.ok.inj hlay).symm
    | some below =>
      rw [hbelow, layValue, mergeOver_of_isScalar his] at hlay
      apply (Except.ok.inj hlay).symm
  · intro upper key lower own value hp hown hs hvalue
    rw [lookup_append] at hvalue ⊢
    obtain ⟨below, hbelow, hrest⟩ := Option.bind_eq_some_iff.1 hvalue
    obtain ⟨existing, hexisting, hlower⟩ := Option.bind_eq_some_iff.1 hrest
    have hlay := lookup_mergeOver ho h hp hown
    rw [hbelow] at hlay
    obtain ⟨combined, hcombined, hmerged⟩ := Except.map_eq_ok_iff.1 hlay
    have hget : combined.get? key = some existing :=
      get?_mergeOver_of_spares (ordered_mapping_iff.1 (ho.lookup hown)).1 hcombined hs hexisting
    rw [← hmerged, Option.bind_some, lookup, hget, Option.bind_some, hlower]

/-- An overlay that sets one variable and would fill a gap with another one. -/
def tunedOverlay : Tree :=
  .mapping [("vars", .mapping [("minor", .integer 9), ("patch?", .integer 1)])]

/-- A base in which the variables are no scalars, one of them with a marked key below it. -/
def nestedBase : Tree :=
  .mapping [("vars", .mapping [("minor", .sequence [.integer 8]),
    ("patch", .mapping [("level!", .null)])])]

/-- The variable that is set replaces a list, and the other one is kept with all that is below it. -/
theorem lookup_tunedOverlay_nestedBase :
  tunedOverlay.mergeOver nestedBase
      = .ok (.mapping [("vars", .mapping [("minor", .integer 9),
        ("patch", .mapping [("level!", .null)])])])
    ∧ (Tree.mapping [("vars", .mapping [("minor", .integer 9),
        ("patch", .mapping [("level!", .null)])])]).lookup ["vars", "minor"] = some (.integer 9)
    ∧ (Tree.mapping [("vars", .mapping [("minor", .integer 9),
        ("patch", .mapping [("level!", .null)])])]).lookup ["vars", "patch", "level!"] = some .null
  := by
  have hmerge : tunedOverlay.mergeOver nestedBase
      = .ok (.mapping [("vars", .mapping [("minor", .integer 9),
        ("patch", .mapping [("level!", .null)])])]) := by rfl
  have hspares : Spares [("minor", .integer 9), ("patch?", .integer 1)] "patch" := by
    have hminor : MergeKey.parse "minor" = ⟨"minor", .plain⟩ := by decide
    have hpatch : MergeKey.parse "patch?" = ⟨"patch", .fallback⟩ := by decide
    simp [Spares, hminor, hpatch]
  obtain ⟨hdominant, hframed⟩ := lookup_dominant_or_framed (by decide +kernel) hmerge
  refine ⟨hmerge, ?_, ?_⟩
  · have hplain : tunedOverlay.PlainPath ["vars", "minor"] :=
      ⟨by decide, by decide, _, rfl, by decide, by decide, _, rfl, trivial⟩
    apply hdominant _ _ hplain rfl rfl
  · have hplain : tunedOverlay.PlainPath ["vars"] := ⟨by decide, by decide, _, rfl, trivial⟩
    apply hframed ["vars"] "patch" ["level!"] _ _ hplain rfl hspares rfl

end LayeredConfig.Tree
