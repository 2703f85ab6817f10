import LayeredConfig.Proofs.Layering.Clash
import LayeredConfig.Proofs.Layering.Composition
import LayeredConfig.Proofs.Layering.Mapping
import Mathlib.Data.Finset.Max

/-!
# Layers that commute

Two overlays are apart if no key of one stands for the same name as a key of the other.  Over a
mapping such overlays can be laid in either order (`commuteOver_of_mapping`): at each name one of
them leaves what lies below.  Over a value of another shape the first one is kept as it is written,
its marked keys included, and so the order does not matter exactly if neither of them has a marked
key (`commuteOver_iff_of_other_shape`).
-/

namespace LayeredConfig.Tree

variable {xs ys base : Entries Tree}

/-- No key of one overlay stands for the same name as a key of the other. -/
def Apart (xs ys : Entries Tree) : Prop :=
  ∀ e ∈ xs, ∀ f ∈ ys, (MergeKey.parse e.1).name ≠ (MergeKey.parse f.1).name

/-- Two overlays can be laid over a value in either order: both orders fail, or both give the
same. -/
def CommuteOver (xs ys : Entries Tree) (below : Tree) : Prop :=
  ∀ merged, mergeLayers [mapping xs, mapping ys] below = .ok merged
    ↔ mergeLayers [mapping ys, mapping xs] below = .ok merged

theorem Apart.symm (h : Apart xs ys) :
  Apart ys xs
  := fun f hf e he => (h e he f hf).symm

/-! ### Over mappings -/

/-- An overlay without a key for a name leaves what lies below it. -/
theorem layName_of_forall_ne (hx : xs.Ascending) {name : String}
    (h : ∀ e ∈ xs, (MergeKey.parse e.1).name ≠ name) (below : Option Tree) :
  layName xs name below = .ok below
  := by
  apply layName_of_none
  intro directive
  rw [← Option.not_isSome_iff_eq_none]
  intro hsome
  obtain ⟨e, he, hname⟩ := (exists_mem_name_iff hx).2 ⟨directive, hsome⟩
  exact h e he hname

/-- At each name one of two overlays that are apart leaves what lies below. -/
theorem Apart.layName_eq (hx : xs.Ascending) (hy : ys.Ascending) (h : Apart xs ys) (name : String) :
  (∀ below, layName xs name below = .ok below) ∨ ∀ below, layName ys name below = .ok below
  := by
  by_cases hname : ∃ e ∈ xs, (MergeKey.parse e.1).name = name
  · obtain ⟨e, he, rfl⟩ := hname
    right
    apply layName_of_forall_ne hy
    intro f hf
    apply (h e he f hf).symm
  · left
    apply layName_of_forall_ne hx
    intro e he heq
    exact hname ⟨e, he, heq⟩

theorem mergeEntries_comm (hx : xs.Ascending) (hy : ys.Ascending) (h : Apart xs ys)
    (hb : base.Ascending) {lower merged : Entries Tree} (hlower : mergeEntries xs base = .ok lower)
    (hmerged : mergeEntries ys lower = .ok merged) :
  ∃ upper, mergeEntries ys base = .ok upper ∧ mergeEntries xs upper = .ok merged
  := by
  -- Between the two layers a name has what it has at the end if `xs` leaves it, else what it has at
  -- the start.
  have hname : ∀ name, ∃ middle, layName ys name (base.find? name) = .ok middle
      ∧ layName xs name middle = .ok (merged.find? name) := by
    intro name
    have hfirst := layName_of_mergeEntries hx hlower name
    have hsecond := layName_of_mergeEntries hy hmerged name
    rcases h.layName_eq hx hy name with hleft | hright
    · rw [hleft] at hfirst
      rw [← Except.ok.inj hfirst] at hsecond
      use merged.find? name, hsecond, hleft _
    · rw [hright] at hsecond
      use base.find? name, hright _
      rw [hfirst, Except.ok.inj hsecond]
  choose middle hmiddle hlast using hname
  obtain ⟨upper, hupper, hfind⟩ := exists_mergeEntries_of_layName hy hmiddle
  use upper, hupper
  apply mergeEntries_eq_ok_of_layName hx (ascending_of_mergeEntries hb hupper)
  · apply ascending_of_mergeEntries (ascending_of_mergeEntries hb hlower) hmerged
  · intro name
    rw [hfind, hlast]

/-- Two layers are laid one after the other. -/
theorem mergeLayers_pair_eq_ok_iff {lower upper base merged : Tree} :
  mergeLayers [lower, upper] base = .ok merged
    ↔ ∃ middle, lower.mergeOver base = .ok middle ∧ upper.mergeOver middle = .ok merged
  := by
  rw [mergeLayers, List.foldlM_cons, Except.bind_eq_ok_iff]
  simp only [List.foldlM_cons, List.foldlM_nil, bind_pure]

theorem mergeLayers_mapping_eq_ok_iff {merged : Tree} :
  mergeLayers [mapping xs, mapping ys] (.mapping base) = .ok merged
    ↔ ∃ lower upper, mergeEntries xs base = .ok lower ∧ mergeEntries ys lower = .ok upper
      ∧ merged = .mapping upper
  := by
  rw [mergeLayers_pair_eq_ok_iff]
  constructor
  · rintro ⟨middle, hfirst, hsecond⟩
    obtain ⟨lower, hlower, rfl⟩ := Except.map_eq_ok_iff.1 hfirst
    obtain ⟨upper, hupper, rfl⟩ := Except.map_eq_ok_iff.1 hsecond
    exact ⟨lower, upper, hlower, hupper, rfl⟩
  · rintro ⟨lower, upper, hlower, hupper, rfl⟩
    use .mapping lower
    simp only [mergeOver, hlower, hupper]
    exact ⟨rfl, rfl⟩

/-- Overlays that are apart can be laid over a mapping in either order. -/
theorem commuteOver_of_mapping (hx : xs.Ascending) (hy : ys.Ascending) (h : Apart xs ys)
    (hb : base.Ascending) :
  CommuteOver xs ys (.mapping base)
  := by
  intro merged
  rw [mergeLayers_mapping_eq_ok_iff, mergeLayers_mapping_eq_ok_iff]
  constructor
  · rintro ⟨lower, merged, hlower, hmerged, rfl⟩
    obtain ⟨upper, hupper, hagain⟩ := mergeEntries_comm hx hy h hb hlower hmerged
    exact ⟨upper, merged, hupper, hagain, rfl⟩
  · rintro ⟨lower, merged, hlower, hmerged, rfl⟩
    obtain ⟨upper, hupper, hagain⟩ := mergeEntries_comm hy hx h.symm hb hlower hmerged
    exact ⟨upper, merged, hupper, hagain, rfl⟩

/-! ### Over other values -/

/-- An overlay without marked keys makes of nothing what it is itself. -/
theorem mergeOver_empty_of_unmarked (hx : xs.Ascending) (hu : Unmarked xs) :
  (mapping xs).mergeOver (.mapping []) = .ok (.mapping xs)
  := by
  have hself : mergeEntries xs [] = .ok xs := by
    apply mergeEntries_eq_ok_of_layName hx Entries.ascending_nil hx
    intro name
    rw [layName_of_unmarked hu]
    cases xs.find? name with
    | none => rfl
    | some value => rfl
  rw [mergeOver, hself]
  rfl

/-- Over a value of another shape the first of two overlays is kept as it is. -/
theorem mergeLayers_of_other_shape {other : Tree} (ho : other.mapping? = none) :
  mergeLayers [mapping xs, mapping ys] other = (mapping ys).mergeOver (.mapping xs)
  := by
  rw [mergeLayers, List.foldlM_cons, mergeOver_of_other_shape ho]
  change mergeLayers [mapping ys] (.mapping xs) = _
  rw [mergeLayers, List.foldlM_cons]
  apply bind_pure

/-- Overlays that are apart do not meet, and so one can be laid over the other. -/
theorem Apart.exists_mergeEntries (hy : ys.Ascending) (h : Apart xs ys) :
  ∃ merged, mergeEntries ys xs = .ok merged
  := by
  cases hmerge : mergeEntries ys xs with
  | ok merged => use merged
  | error e =>
    obtain ⟨entry, he, hfailure⟩ :=
      List.exists_of_findSome?_eq_some ((mergeEntries_eq_error_iff hy).1 hmerge)
    obtain ⟨-, existing, hexisting, -⟩ := failure?_eq_some_iff.1 hfailure
    exact absurd rfl (h _ (Entries.mem_of_find? hexisting) entry he)

/-- A marked key is longer than the name that it stands for. -/
theorem length_name_lt {raw : String} (h : MergeKey.isMarked raw = true) :
  (MergeKey.parse raw).name.length < raw.length
  := by
  have hwritten := MergeKey.written_parse raw
  rw [MergeKey.isMarked, bne_iff_ne] at h
  generalize MergeKey.parse raw = key at h hwritten
  obtain ⟨name, directive⟩ := key
  subst hwritten
  rw [MergeKey.written, String.length_ofList, List.length_append]
  apply Nat.lt_add_of_pos_right
  cases directive with
  | plain => exact absurd rfl h
  | override => apply Nat.one_pos
  | fallback => apply Nat.one_pos

/-- The keys of a merged mapping are those of the base and the names of the overlay. -/
theorem mem_keys_mergeEntries_iff (hx : xs.Ascending) {merged : Entries Tree}
    (h : mergeEntries xs base = .ok merged) (name : String) :
  name ∈ merged.keys ↔ name ∈ base.keys ∨ ∃ e ∈ xs, (MergeKey.parse e.1).name = name
  := by
  rw [exists_mem_name_iff hx, ← Entries.isSome_find?_iff, ← Entries.isSome_find?_iff,
    isSome_layName_iff (layName_of_mergeEntries hx h name)]

/-- If overlays that are apart can be laid over each other with the same result, one of them has no
marked key that is at least as long as all marked keys of both: after it has been laid over the other
this key is gone, since no longer key stands for it. -/
theorem Apart.not_longest (hx : xs.Ascending) (hy : ys.Ascending) (h : Apart xs ys)
    {merged : Entries Tree} (hxy : mergeEntries ys xs = .ok merged)
    (hyx : mergeEntries xs ys = .ok merged) {key : String} (hkey : key ∈ xs.keys)
    (hmarked : MergeKey.isMarked key = true)
    (hlongest : ∀ e ∈ xs, MergeKey.isMarked e.1 = true → e.1.length ≤ key.length) :
  False
  := by
  obtain ⟨e, he, rfl⟩ := List.mem_map.1 hkey
  have hmerged : e.1 ∈ merged.keys := (mem_keys_mergeEntries_iff hy hxy e.1).2 (.inl hkey)
  rcases (mem_keys_mergeEntries_iff hx hyx e.1).1 hmerged with hkey' | ⟨f, hf, hname⟩
  · obtain ⟨f, hf, heq⟩ := List.mem_map.1 hkey'
    exact h e he f hf (by rw [heq])
  · cases hm : MergeKey.isMarked f.1 with
    | false =>
      rw [MergeKey.parse_plain_iff.2 hm] at hname
      rw [← hname, hm] at hmarked
      cases hmarked
    | true =>
      have hlt := length_name_lt hm
      rw [hname] at hlt
      exact absurd (hlongest f hf hm) (Nat.not_le.2 hlt)

/-- The marked keys of two overlays. -/
def markedKeys (xs ys : Entries Tree) : List String :=
  (xs.keys ++ ys.keys).filter MergeKey.isMarked

theorem mem_markedKeys_iff {key : String} :
  key ∈ markedKeys xs ys ↔ (key ∈ xs.keys ∨ key ∈ ys.keys) ∧ MergeKey.isMarked key = true
  := by
  rw [markedKeys, List.mem_filter, List.mem_append]

theorem unmarked_of_markedKeys_eq_nil (h : markedKeys xs ys = []) :
  Unmarked xs ∧ Unmarked ys
  := by
  have hplain : ∀ key, key ∈ xs.keys ∨ key ∈ ys.keys → MergeKey.isMarked key = false := by
    intro key hkey
    rw [← Bool.not_eq_true]
    intro hmarked
    have hmem := mem_markedKeys_iff.2 ⟨hkey, hmarked⟩
    rw [h] at hmem
    cases hmem
  exact ⟨fun e he => hplain e.1 (.inl (List.mem_map_of_mem he)),
    fun e he => hplain e.1 (.inr (List.mem_map_of_mem he))⟩

/-- Overlays that are apart and can be laid over each other with the same result have no marked
keys: a longest one would be gone in one of the two orders. -/
theorem Apart.unmarked_of_same (hx : xs.Ascending) (hy : ys.Ascending) (h : Apart xs ys)
    {merged : Entries Tree} (hxy : mergeEntries ys xs = .ok merged)
    (hyx : mergeEntries xs ys = .ok merged) :
  Unmarked xs ∧ Unmarked ys
  := by
  rcases (markedKeys xs ys).toFinset.eq_empty_or_nonempty with hempty | hsome
  · apply unmarked_of_markedKeys_eq_nil (List.toFinset_eq_empty_iff _ |>.1 hempty)
  · obtain ⟨key, hkey, hlongest⟩ := Finset.exists_max_image _ String.length hsome
    simp only [List.mem_toFinset, mem_markedKeys_iff] at hkey hlongest
    obtain ⟨hmem, hmarked⟩ := hkey
    rcases hmem with hmem | hmem
    · apply (h.not_longest hx hy hxy hyx hmem hmarked _).elim
      intro e he hm
      apply hlongest e.1 ⟨.inl (List.mem_map_of_mem he), hm⟩
    · apply (h.symm.not_longest hy hx hyx hxy hmem hmarked _).elim
      intro e he hm
      apply hlongest e.1 ⟨.inr (List.mem_map_of_mem he), hm⟩

/-- Overlays that are apart can be laid over a value of another shape in either order exactly if
neither of them has a marked key. -/
theorem commuteOver_iff_of_other_shape (hx : xs.Ascending) (hy : ys.Ascending) (h : Apart xs ys)
    {other : Tree} (ho : other.mapping? = none) :
  CommuteOver xs ys other ↔ Unmarked xs ∧ Unmarked ys
  := by
  constructor
  · intro hcomm
    obtain ⟨merged, hxy⟩ := h.exists_mergeEntries hy
    have hyx : mergeEntries xs ys = .ok merged := by
      have hfirst : mergeLayers [mapping xs, mapping ys] other = .ok (.mapping merged) := by
        rw [mergeLayers_of_other_shape ho, mergeOver, hxy]
        rfl
      have hsecond := (hcomm _).1 hfirst
      rw [mergeLayers_of_other_shape ho] at hsecond
      obtain ⟨entries, hentries, heq⟩ := Except.map_eq_ok_iff.1 hsecond
      rw [hentries, Tree.mapping.inj heq]
    apply h.unmarked_of_same hx hy hxy hyx
  · rintro ⟨hxu, hyu⟩ merged
    have hxs : (mapping xs).mergeOver other = (mapping xs).mergeOver (.mapping []) := by
      rw [mergeOver_empty_of_unmarked hx hxu, mergeOver_of_other_shape ho]
    have hys : (mapping ys).mergeOver other = (mapping ys).mergeOver (.mapping []) := by
      rw [mergeOver_empty_of_unmarked hy hyu, mergeOver_of_other_shape ho]
    have hempty := commuteOver_of_mapping hx hy h Entries.ascending_nil merged
    rw [mergeLayers_pair_eq_ok_iff, mergeLayers_pair_eq_ok_iff] at hempty ⊢
    rw [hxs, hys]
    apply hempty

/-- Overlays that are apart can be laid in either order exactly over mappings, and over every value
if neither of them has a marked key. -/
theorem commuteOver_iff (hx : xs.Ascending) (hy : ys.Ascending) (h : Apart xs ys) {below : Tree}
    (hb : below.Ordered) :
  CommuteOver xs ys below
    ↔ (∃ entries, below = .mapping entries) ∨ Unmarked xs ∧ Unmarked ys
  := by
  by_cases hshape : ∃ entries, below = .mapping entries
  · obtain ⟨entries, rfl⟩ := hshape
    have hcomm := commuteOver_of_mapping hx hy h (ordered_mapping_iff.1 hb).1
    exact iff_of_true hcomm (.inl ⟨entries, rfl⟩)
  · have hnone : below.mapping? = none := by
      cases below with
      | mapping entries => exact absurd ⟨entries, rfl⟩ hshape
      | _ => rfl
    rw [commuteOver_iff_of_other_shape hx hy h hnone, or_iff_right hshape]

end LayeredConfig.Tree
