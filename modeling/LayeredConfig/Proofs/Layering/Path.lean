import LayeredConfig.Proofs.Layering.Name

/-!
# Merging along a path

A path is plain in an overlay if at each level the overlay has the next key, as a plain one,
and does not override it.  Along such a path the merged tree holds what the overlay has there,
merged over what the base has there (`lookup_mergeOver`).  Therefore the marked keys at the end
of a plain path are obeyed where the base has a mapping too, at any depth
(`directives_obeyed_along_path`); they are kept as they are written where the base has a value
of another shape on the way.
-/

namespace LayeredConfig.Tree

variable {top base merged : Tree}

/-- At each level the overlay has the next key of the path as a plain one, and does not
override it. -/
def PlainPath (top : Tree) : List String → Prop
  | [] => True
  | key :: path => MergeKey.isMarked key = false
    ∧ top.get? (MergeKey.written ⟨key, .override⟩) = none
    ∧ ∃ child, top.get? key = some child ∧ child.PlainPath path

theorem mergeOver_of_other_shape {overlay : Entries Tree} (h : base.mapping? = none) :
  (Tree.mapping overlay).mergeOver base = .ok (.mapping overlay)
  := by
  cases base with
  | mapping entries => cases h
  | _ => rfl

/-! ### One level -/

/-- A mapping merged over a mapping is one, and holds under each name what the overlay makes of
the value below it. -/
theorem exists_of_mergeOver_mapping {overlay below : Entries Tree} (ho : overlay.Ascending)
    (h : (Tree.mapping overlay).mergeOver (.mapping below) = .ok merged) :
  ∃ entries : Entries Tree, merged = .mapping entries
    ∧ ∀ name, layName overlay name (below.find? name) = .ok (entries.find? name)
  := by
  obtain ⟨entries, hm, rfl⟩ := Except.map_eq_ok_iff.1 h
  use entries, rfl
  apply layName_of_mergeEntries ho hm

/-- Under a plain key that the overlay has and does not override, the merged tree holds the
value of the overlay merged over that of the base. -/
theorem get?_mergeOver (ho : top.Ordered) (h : top.mergeOver base = .ok merged) {key : String}
    (hplain : MergeKey.isMarked key = false)
    (hover : top.get? (MergeKey.written ⟨key, .override⟩) = none) {child : Tree}
    (hchild : top.get? key = some child) :
  layValue (base.get? key) child .plain = .ok (merged.get? key)
  := by
  obtain ⟨overlay, rfl⟩ := exists_mapping_of_get? hchild
  cases hb : base.mapping? with
  | none =>
    rw [mergeOver_of_other_shape hb] at h
    cases h
    rw [hchild, get?, hb]
    rfl
  | some below =>
    obtain rfl := mapping?_eq_some_iff.1 hb
    obtain ⟨entries, rfl, hname⟩ := exists_of_mergeOver_mapping (ordered_mapping_iff.1 ho).1 h
    rw [get?_mapping, get?_mapping, ← hname key]
    symm
    apply layName_of_plain
    · rw [valueFor?_plain hplain]
      apply hchild
    · rw [valueFor?_override]
      apply hover

/-- An overlay has no marked key for a name. -/
structure PlainFor (overlay : Entries Tree) (name : String) : Prop where
  override : overlay.find? (MergeKey.written ⟨name, .override⟩) = none
  fallback : overlay.find? (MergeKey.written ⟨name, .fallback⟩) = none

/-- A scalar is the result of merging it. -/
theorem layValue_of_isScalar {value : Tree} (h : value.isScalar = true) (below : Option Tree) :
  layValue below value .plain = .ok (some value)
  := by
  cases below with
  | none => rfl
  | some existing =>
    rw [layValue, mergeOver_of_isScalar h]
    rfl

/-- Under a name for which a mapping has only plain keys, and nothing but a scalar, the result of
merging it has this scalar, or else what lies below. -/
theorem get?_mergeOver_of_plainFor {overlay : Entries Tree} (ho : (mapping overlay).Ordered)
    (h : (mapping overlay).mergeOver base = .ok merged) {name : String}
    (hname : MergeKey.isMarked name = false) (hplain : PlainFor overlay name)
    (hscalar : ∀ value, overlay.find? name = some value → value.isScalar = true) :
  merged.get? name = (overlay.find? name).or (base.get? name)
  := by
  cases hown : overlay.find? name with
  | some value =>
    have hlay := get?_mergeOver ho h hname (hplain.override) hown
    rw [layValue_of_isScalar (hscalar value hown)] at hlay
    exact (Except.ok.inj hlay).symm
  | none =>
    cases hb : base.mapping? with
    | none =>
      rw [mergeOver_of_other_shape hb] at h
      cases h
      rw [get?_mapping, hown, get?, hb]
      rfl
    | some below =>
      obtain rfl := mapping?_eq_some_iff.1 hb
      obtain ⟨entries, rfl, hlay⟩ := exists_of_mergeOver_mapping (ordered_mapping_iff.1 ho).1 h
      have hkept : layName overlay name (below.find? name) = .ok (below.find? name) := by
        apply layName_of_none
        intro directive
        cases directive with
        | plain => rw [valueFor?_plain hname, hown]
        | override => rw [valueFor?_override, hplain.override]
        | fallback => rw [valueFor?_fallback, hplain.fallback]
      rw [get?_mapping, get?_mapping, Option.none_or]
      apply Except.ok.inj ((hlay name).symm.trans hkept)

/-! ### The whole path -/

/-- At the end of a plain path the merged tree holds the value of the overlay merged over that
of the base, and the value of the overlay as it is where the base has none. -/
theorem lookup_mergeOver (ho : top.Ordered) (h : top.mergeOver base = .ok merged)
    {path : List String} (hp : top.PlainPath path) {own : Tree} (hown : top.lookup path = some own) :
  layValue (base.lookup path) own .plain = .ok (merged.lookup path)
  := by
  induction path generalizing top base merged with
  | nil =>
    cases hown
    simp only [lookup, layValue, h]
    rfl
  | cons key path ih =>
    obtain ⟨hplain, hover, child, hchild, hrest⟩ := hp
    have hlay := get?_mergeOver ho h hplain hover hchild
    rw [lookup, hchild, Option.bind_some] at hown
    rw [lookup, lookup]
    cases hb : base.get? key with
    | none =>
      rw [hb] at hlay
      rw [← Except.ok.inj hlay]
      simp only [Option.bind_none, Option.bind_some, hown]
      rfl
    | some below =>
      rw [hb] at hlay
      obtain ⟨combined, hc, hget⟩ := Except.map_eq_ok_iff.1 hlay
      rw [← hget]
      apply ih (ho.get? hchild) hc hrest hown

theorem lookup_append_singleton {t : Tree} {path : List String} {entries : Entries Tree}
    (h : t.lookup path = some (.mapping entries)) (key : String) :
  t.lookup (path ++ [key]) = entries.find? key
  := by
  rw [lookup_append, h, Option.bind_some, lookup, get?_mapping]
  cases entries.find? key with
  | none => rfl
  | some value => rfl

/-- Nothing is found behind a value that is no mapping. -/
theorem lookup_append_of_other_shape {t other : Tree} {upper lower : List String}
    (ht : t.lookup upper = some other) (hother : other.mapping? = none) (hl : lower ≠ []) :
  t.lookup (upper ++ lower) = none
  := by
  cases lower with
  | nil => exact absurd rfl hl
  | cons key lower => rw [lookup_append, ht, Option.bind_some, lookup, get?, hother]; rfl

/-! ### Marked keys -/

/-- Let an overlay have a mapping at the end of a plain path.  If the base has a mapping there
too, the value that overrides a name is found under the name after the merge, and so is the
value that fills a gap, if the overlay has no other key for the name and the base nothing under
it.  If the base has a value of another shape there or on the way, the mapping of the overlay
is kept as it is written. -/
theorem directives_obeyed_along_path (ho : top.Ordered) (h : top.mergeOver base = .ok merged)
    {path : List String} (hp : top.PlainPath path) {own : Entries Tree}
    (hown : top.lookup path = some (.mapping own)) (key : String) :
  (∀ below : Entries Tree, base.lookup path = some (.mapping below) →
      (∀ value, own.find? (MergeKey.written ⟨key, .override⟩) = some value →
        merged.lookup (path ++ [key]) = some value)
      ∧ ∀ value, own.find? (MergeKey.written ⟨key, .fallback⟩) = some value →
        own.find? (MergeKey.written ⟨key, .override⟩) = none →
        (MergeKey.isMarked key = true ∨ own.find? key = none) →
        base.lookup (path ++ [key]) = none → merged.lookup (path ++ [key]) = some value)
    ∧ ∀ upper lower other, path = upper ++ lower → base.lookup upper = some other →
      other.mapping? = none → merged.lookup path = some (.mapping own)
  := by
  have hlay := lookup_mergeOver ho h hp hown
  constructor
  · intro below hbelow
    rw [hbelow] at hlay
    obtain ⟨combined, hc, hmerged⟩ := Except.map_eq_ok_iff.1 hlay
    obtain ⟨entries, rfl, hname⟩ :=
      exists_of_mergeOver_mapping (ordered_mapping_iff.1 (ho.lookup hown)).1 hc
    rw [lookup_append_singleton hmerged.symm, lookup_append_singleton hbelow]
    constructor
    · intro value hv
      apply eq_of_layName_of_override (valueFor?_override.trans hv) (hname key)
    · intro value hv hover hplain hgap
      have hlaid : layName own key (below.find? key) = .ok (some ((below.find? key).getD value)) :=
        layName_of_fallback (valueFor?_plain_eq_none_iff.2 hplain) (valueFor?_override.trans hover)
          (valueFor?_fallback.trans hv)
      rw [hname, hgap] at hlaid
      apply Except.ok.inj hlaid
  · rintro upper lower other rfl hupper hother
    by_cases hl : lower = []
    · subst hl
      rw [List.append_nil] at hlay ⊢
      rw [hupper, layValue, mergeOver_of_other_shape hother] at hlay
      apply (Except.ok.inj hlay).symm
    · rw [lookup_append_of_other_shape hupper hother hl] at hlay
      apply (Except.ok.inj hlay).symm

/-- Variables with one key that overrides and one that fills a gap. -/
def markedVars : Entries Tree := [("minor?", .integer 8), ("patch!", .integer 2)]

/-- An overlay that holds marked keys one level down. -/
def markedOverlay : Tree := .mapping [("vars", .mapping markedVars)]

theorem ordered_markedOverlay :
  markedOverlay.Ordered
  := by
  have hvars : (mapping markedVars).Ordered :=
    ordered_mapping_iff.2 ⟨List.pairwise_pair.2 (by decide), by simp [markedVars, Ordered]⟩
  exact ordered_mapping_iff.2 ⟨List.pairwise_singleton _ _, by simpa using hvars⟩

theorem plainPath_markedOverlay :
  markedOverlay.PlainPath ["vars"]
  := ⟨by decide, by decide, _, rfl, trivial⟩

theorem directives_obeyed_by_markedOverlay :
  markedOverlay.mergeOver (.mapping [("vars", .mapping [("major", .integer 4)])])
      = .ok (.mapping [("vars", .mapping
        [("major", .integer 4), ("minor", .integer 8), ("patch", .integer 2)])])
    ∧ (Tree.mapping [("vars", .mapping
        [("major", .integer 4), ("minor", .integer 8), ("patch", .integer 2)])]).lookup
          (["vars"] ++ ["patch"]) = some (.integer 2)
    ∧ (Tree.mapping [("vars", .mapping
        [("major", .integer 4), ("minor", .integer 8), ("patch", .integer 2)])]).lookup
          (["vars"] ++ ["minor"]) = some (.integer 8)
    ∧ markedOverlay.mergeOver (.mapping [("vars", .null)]) = .ok markedOverlay
    ∧ markedOverlay.lookup ["vars"] = some (.mapping markedVars)
  := by
  have hmapping : markedOverlay.mergeOver (.mapping [("vars", .mapping [("major", .integer 4)])])
      = .ok (.mapping [("vars", .mapping
        [("major", .integer 4), ("minor", .integer 8), ("patch", .integer 2)])]) := by rfl
  have hnull : markedOverlay.mergeOver (.mapping [("vars", .null)]) = .ok markedOverlay := by rfl
  refine ⟨hmapping, ?_, ?_, hnull, ?_⟩
  · apply ((directives_obeyed_along_path ordered_markedOverlay hmapping plainPath_markedOverlay rfl
      "patch").1 _ rfl).1 _ (by decide)
  · apply ((directives_obeyed_along_path ordered_markedOverlay hmapping plainPath_markedOverlay rfl
      "minor").1 _ rfl).2 _ (by decide) (by decide) (by decide) (by decide)
  · apply (directives_obeyed_along_path ordered_markedOverlay hnull plainPath_markedOverlay rfl
      "patch").2 ["vars"] [] .null rfl rfl rfl

/-- Where the base has a value of another shape, or nothing, marked keys are not obeyed: they are
kept as they are written, and nothing is found under the names that they stand for. -/
theorem marked_keys_kept_over_gap :
  markedOverlay.Ordered ∧ markedOverlay.PlainPath ["vars"]
    ∧ markedOverlay.lookup ["vars"] = some (.mapping markedVars)
    ∧ markedVars.find? (MergeKey.written ⟨"patch", .override⟩) = some (.integer 2)
    ∧ markedVars.find? (MergeKey.written ⟨"minor", .fallback⟩) = some (.integer 8)
    ∧ markedVars.find? (MergeKey.written ⟨"minor", .override⟩) = none
    ∧ markedVars.find? "minor" = none
    ∧ ∀ base ∈ [Tree.mapping [("vars", .null)], .mapping []], base.Ordered
      ∧ base.lookup ["vars", "minor"] = none
      ∧ ∃ merged, markedOverlay.mergeOver base = .ok merged
        ∧ merged.lookup ["vars", "patch"] ≠ some (.integer 2)
        ∧ merged.lookup ["vars", "minor"] ≠ some (.integer 8)
  := by
  refine ⟨ordered_markedOverlay, plainPath_markedOverlay, rfl, by decide, by decide, by decide,
    by decide, ?_⟩
  intro base hb
  simp only [List.mem_cons, List.not_mem_nil, or_false] at hb
  rcases hb with rfl | rfl
  · refine ⟨?_, by decide, markedOverlay, rfl, by decide, by decide⟩
    simp [Ordered, OrderedEntries, Entries.Ascending]
  · refine ⟨?_, by decide, markedOverlay, rfl, by decide, by decide⟩
    simp [Ordered, OrderedEntries, Entries.Ascending]

end LayeredConfig.Tree
