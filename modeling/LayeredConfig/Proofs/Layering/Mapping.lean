import LayeredConfig.Proofs.Layering.Path

/-!
# Merged mappings in closed form

What a merge of two mappings has under a name depends only on the value below the name and on the
three entries that the overlay can have for it (`LaidOver`).  The entry that overrides comes first,
then the plain one, then the one that fills a gap, in whatever order the keys are visited
(`mergeOver_mapping_closed_form`).  So the names of the merged mapping are those of the base
together with those that the keys of the overlay stand for.
-/

namespace LayeredConfig.Tree

variable {overlay base : Entries Tree} {name : String} {below result : Option Tree}

/-- What is left under a name when an overlay is laid over a value, or over nothing, there. -/
structure LaidOver (overlay : Entries Tree) (name : String) (below result : Option Tree) : Prop where
  /-- A value that overrides is taken as it is, whatever lies below and beside it. -/
  of_override : ∀ value, overlay.find? (MergeKey.written ⟨name, .override⟩) = some value →
    result = some value
  /-- Without one a plain value is merged over the value below, and taken as it is over nothing,
  whether or not there is a value that fills gaps. -/
  of_plain : overlay.find? (MergeKey.written ⟨name, .override⟩) = none →
    MergeKey.isMarked name = false → ∀ value, overlay.find? name = some value →
      (∀ existing, below = some existing →
        ∃ combined, value.mergeOver existing = .ok combined ∧ result = some combined)
      ∧ (below = none → result = some value)
  /-- Without either of them a value that fills gaps is taken over nothing only. -/
  of_fallback : overlay.find? (MergeKey.written ⟨name, .override⟩) = none →
    (MergeKey.isMarked name = true ∨ overlay.find? name = none) →
    ∀ value, overlay.find? (MergeKey.written ⟨name, .fallback⟩) = some value →
      result = some (below.getD value)
  /-- Without all three the value below stays. -/
  of_none : overlay.find? (MergeKey.written ⟨name, .override⟩) = none →
    (MergeKey.isMarked name = true ∨ overlay.find? name = none) →
    overlay.find? (MergeKey.written ⟨name, .fallback⟩) = none → result = below

theorem laidOver_of_layName (h : layName overlay name below = .ok result) :
  LaidOver overlay name below result
  where
  of_override value hover := eq_of_layName_of_override (valueFor?_override.trans hover) h
  of_plain hover hmarked value hplain := by
    rw [layName_of_plain ((valueFor?_plain hmarked).trans hplain) (valueFor?_override.trans hover)]
      at h
    constructor
    · rintro existing rfl
      obtain ⟨combined, hcombined, rfl⟩ := Except.map_eq_ok_iff.1 h
      use combined, hcombined
    · rintro rfl
      apply (Except.ok.inj h).symm
  of_fallback hover hplain value hfall := by
    rw [layName_of_fallback (valueFor?_plain_eq_none_iff.2 hplain) (valueFor?_override.trans hover)
      (valueFor?_fallback.trans hfall)] at h
    apply (Except.ok.inj h).symm
  of_none hover hplain hfall := by
    rw [layName_of_none] at h
    · apply (Except.ok.inj h).symm
    · intro directive
      cases directive with
      | plain => exact valueFor?_plain_eq_none_iff.2 hplain
      | override => exact valueFor?_override.trans hover
      | fallback => exact valueFor?_fallback.trans hfall

/-! ### Names -/

/-- Some key of the overlay stands for a name exactly if the overlay has one of the three values
for it. -/
theorem exists_mem_name_iff (ho : overlay.Ascending) :
  (∃ e ∈ overlay, (MergeKey.parse e.1).name = name)
    ↔ ∃ directive, (valueFor? overlay ⟨name, directive⟩).isSome = true
  := by
  constructor
  · rintro ⟨e, he, rfl⟩
    have hmem : e ∈ entriesFor overlay (MergeKey.parse e.1).name :=
      List.mem_filter.2 ⟨he, beq_self_eq_true _⟩
    obtain ⟨directive, hv, -⟩ := (mem_entriesFor_iff ho).1 hmem
    use directive
    rw [hv]
    rfl
  · rintro ⟨directive, hsome⟩
    obtain ⟨value, hv⟩ := Option.isSome_iff_exists.1 hsome
    have hmem : (MergeKey.written ⟨name, directive⟩, value) ∈ entriesFor overlay name :=
      (mem_entriesFor_iff ho).2 ⟨directive, hv, rfl⟩
    obtain ⟨he, hname⟩ := List.mem_filter.1 hmem
    use (MergeKey.written ⟨name, directive⟩, value), he, eq_of_beq hname

theorem isSome_layOption_iff {value : Option Tree} {directive : MergeDirective}
    (h : layOption below value directive = .ok result) :
  result.isSome = true ↔ below.isSome = true ∨ value.isSome = true
  := by
  cases value with
  | none =>
    cases h
    simp
  | some value =>
    obtain ⟨laid, rfl⟩ := exists_of_layValue h
    simp

/-- Something is left under a name exactly if something lay there or the overlay has a value for
it. -/
theorem isSome_layName_iff (h : layName overlay name below = .ok result) :
  result.isSome = true
    ↔ below.isSome = true ∨ ∃ directive, (valueFor? overlay ⟨name, directive⟩).isSome = true
  := by
  rw [layName_eq] at h
  obtain ⟨first, hplain, h⟩ := Except.bind_eq_ok_iff.1 h
  obtain ⟨second, hover, hfall⟩ := Except.bind_eq_ok_iff.1 h
  rw [isSome_layOption_iff hfall, isSome_layOption_iff hover, isSome_layOption_iff hplain,
    or_assoc, or_assoc]
  apply or_congr_right
  constructor
  · rintro (hsome | hsome | hsome)
    · use .plain
    · use .override
    · use .fallback
  · rintro ⟨directive, hsome⟩
    cases directive with
    | plain => exact .inl hsome
    | override => exact .inr (.inl hsome)
    | fallback => exact .inr (.inr hsome)

/-! ### The closed form -/

/-- A merge of two mappings that succeeds is a mapping.  Under each name it has what the overlay
leaves of the value below, and its names are those of the base and those that the keys of the
overlay stand for. -/
theorem mergeOver_mapping_closed_form (ho : overlay.Ascending) {merged : Tree}
    (h : (mapping overlay).mergeOver (mapping base) = .ok merged) :
  ∃ entries : Entries Tree, merged = .mapping entries
    ∧ (∀ name, LaidOver overlay name (base.find? name) (entries.find? name))
    ∧ ∀ name, name ∈ entries.keys
      ↔ name ∈ base.keys ∨ ∃ e ∈ overlay, (MergeKey.parse e.1).name = name
  := by
  obtain ⟨entries, rfl, hname⟩ := exists_of_mergeOver_mapping ho h
  refine ⟨entries, rfl, fun name => laidOver_of_layName (hname name), ?_⟩
  intro name
  rw [exists_mem_name_iff ho, ← Entries.isSome_find?_iff, ← Entries.isSome_find?_iff,
    isSome_layName_iff (hname name)]

/-- An overlay with several keys for one name, and with keys that keep a marker when they lose
one. -/
def crowdedOverlay : Entries Tree :=
  [("a", .integer 1), ("a!", .integer 2), ("a?", .integer 3), ("b", .mapping [("y", .integer 2)]),
    ("b?", .null), ("c", .bool true), ("c!!", .integer 4), ("c?", .null), ("d?", .integer 5),
    ("e?", .integer 6)]

/-- A base that has some of the names. -/
def sparseBase : Entries Tree :=
  [("a", .null), ("b", .mapping [("x", .integer 1)]), ("c!", .null), ("d", .integer 0), ("f", .null)]

theorem ascending_crowdedOverlay :
  crowdedOverlay.Ascending
  := by decide +kernel

/-- Of the keys for `a` the overriding one counts, of those for `b` and `c` the plain one, and
`c!!` replaces what is under `c!`; the base keeps `d` and `f`. -/
theorem mergeOver_crowdedOverlay :
  ∃ entries : Entries Tree,
    (mapping crowdedOverlay).mergeOver (mapping sparseBase) = .ok (.mapping entries)
    ∧ entries.find? "a" = some (.integer 2)
    ∧ entries.find? "b" = some (.mapping [("x", .integer 1), ("y", .integer 2)])
    ∧ entries.find? "c" = some (.bool true)
    ∧ entries.find? "c!" = some (.integer 4)
    ∧ entries.find? "d" = some (.integer 0)
    ∧ entries.find? "e" = some (.integer 6)
    ∧ entries.find? "f" = some .null
    ∧ ∀ name, name ∈ entries.keys
      ↔ name ∈ sparseBase.keys ∨ ∃ e ∈ crowdedOverlay, (MergeKey.parse e.1).name = name
  := by
  have hmerge : (mapping crowdedOverlay).mergeOver (mapping sparseBase)
      = .ok (.mapping [("a", .integer 2), ("b", .mapping [("x", .integer 1), ("y", .integer 2)]),
        ("c", .bool true), ("c!", .integer 4), ("d", .integer 0), ("e", .integer 6),
        ("f", .null)]) := by rfl
  obtain ⟨entries, hentries, hlaid, hkeys⟩ :=
    mergeOver_mapping_closed_form ascending_crowdedOverlay hmerge
  rw [hentries] at hmerge
  refine ⟨entries, hmerge, ?_, ?_, ?_, ?_, ?_, ?_, ?_, hkeys⟩
  · apply (hlaid "a").of_override _ (by decide)
  · obtain ⟨hover, -⟩ := (hlaid "b").of_plain (by decide) (by decide) _ rfl
    obtain ⟨combined, hcombined, hb⟩ := hover _ rfl
    cases hcombined
    apply hb
  · apply ((hlaid "c").of_plain (by decide) (by decide) _ rfl).2 rfl
  · apply (hlaid "c!").of_override _ (by decide)
  · apply (hlaid "d").of_fallback (by decide) (by decide) (.integer 5) (by decide)
  · apply (hlaid "e").of_fallback (by decide) (by decide) (.integer 6) (by decide)
  · apply (hlaid "f").of_none (by decide) (by decide) (by decide)

end LayeredConfig.Tree
