import LayeredConfig.Proofs.Layering.Name
import LayeredConfig.Proofs.Layering.Order
import LayeredConfig.Proofs.Layering.Union
import Mathlib.Tactic.Choose

/-!
# Composing layers

Layers can be put together before they are laid over a base, if they are compatible: where two of
them meet, both have scalars, or lists of one kind, or mappings without marked keys
(`mergeOver_assoc`).  For lists this is the associativity of the union, together with the fact
that sorting forgets where the items stood; for mappings it is shown name by name, according to
which of the three layers have the name.
-/

namespace LayeredConfig

open Layering

namespace Tree

variable {top middle base : Tree}

/-! ### Compatible trees -/

/-- The kinds of lists that can be united in any grouping. -/
inductive ListKind where
  /-- Lists of strings. -/
  | strings
  /-- Lists of integers that binary64 numbers tell apart. -/
  | integers
  /-- Lists that are not sorted, and cannot come to be. -/
  | unsorted

/-- Whether a list of a kind can have an item. -/
def ListKind.Holds : ListKind → Tree → Prop
  | .strings, x => ∃ s, x = .string s
  | .integers, x => ∃ i, x = .integer i ∧ i.toInt.natAbs ≤ 2 ^ 53
  | .unsorted, x => x.leadsOrder = false

/-- No key of the entries ends in a marker. -/
def Unmarked (entries : Entries Tree) : Prop :=
  ∀ e ∈ entries, MergeKey.isMarked e.1 = false

/-- Two trees have the same shape wherever both are defined, as far as merging tells shapes
apart. -/
inductive Compatible : Tree → Tree → Prop
  | scalar {x y : Tree} (hx : x.isScalar = true) (hy : y.isScalar = true) : Compatible x y
  | sequence (kind : ListKind) {xs ys : List Tree} (hx : ∀ x ∈ xs, kind.Holds x)
      (hy : ∀ y ∈ ys, kind.Holds y) : Compatible (.sequence xs) (.sequence ys)
  | mapping {xs ys : Entries Tree} (hx : Unmarked xs) (hy : Unmarked ys)
      (h : ∀ key x y, xs.find? key = some x → ys.find? key = some y → Compatible x y) :
    Compatible (.mapping xs) (.mapping ys)

/-- The upper two of three trees can be put together first, or the lower two. -/
def Composes (top middle base : Tree) : Prop :=
  ∃ lower upper merged, middle.mergeOver base = .ok lower ∧ top.mergeOver middle = .ok upper
    ∧ top.mergeOver lower = .ok merged ∧ upper.mergeOver base = .ok merged

/-! ### Scalars -/

theorem composes_of_isScalar (ht : top.isScalar = true) (hm : middle.isScalar = true) :
  Composes top middle base
  := by
  use middle, top, top
  simp only [mergeOver_of_isScalar ht, mergeOver_of_isScalar hm, and_self]

/-! ### Sequences -/

section

variable {xs ys zs : List Tree}

theorem forall_mem_union {p : Tree → Prop} (hx : ∀ x ∈ xs, p x) (hy : ∀ y ∈ ys, p y) :
  ∀ x ∈ union xs ys, p x
  := by
  intro x hm
  rcases mem_of_mem_union hm with hm | hm
  · apply hy x hm
  · apply hx x hm

theorem mergeOver_sequence {sorted : List Tree} (h : inOrder (union xs ys) = .ok sorted) :
  (sequence xs).mergeOver (.sequence ys) = .ok (.sequence sorted)
  := by
  rw [mergeOver, h]
  rfl

theorem composes_of_sortable {α : Type} [LinearOrder α] {embed : α → Tree} (h : Sortable embed)
    (hx : ∀ x ∈ xs, x ∈ Set.range embed) (hy : ∀ y ∈ ys, y ∈ Set.range embed)
    (hz : ∀ z ∈ zs, z ∈ Set.range embed) :
  Composes (.sequence xs) (.sequence ys) (.sequence zs)
  := by
  have hxy := forall_mem_union hx hy
  have hyz := forall_mem_union hy hz
  obtain ⟨lower, hlower⟩ := h.exists_inOrder hyz
  obtain ⟨upper, hupper⟩ := h.exists_inOrder hxy
  have hlow : ∀ x ∈ lower, x ∈ Set.range embed :=
    fun x hm => hyz x ((perm_of_inOrder hlower).mem_iff.1 hm)
  obtain ⟨merged, hmerged⟩ := h.exists_inOrder (forall_mem_union hx hlow)
  have heq : ∀ x ∈ union xs ys, ∀ y ∈ union xs ys, x.alike y = true → x = y := by
    intro x hx y hy halike
    obtain ⟨a, rfl⟩ := hxy x hx
    obtain ⟨b, rfl⟩ := hxy y hy
    rw [h.eq_of_alike a b halike]
  have hperm : (union xs lower).Perm (union upper zs) := by
    calc (union xs lower).Perm (union xs (union ys zs)) :=
          union_perm_base xs (perm_of_inOrder hlower)
      _ = union (union xs ys) zs := union_union xs ys zs
      List.Perm _ (union upper zs) :=
          union_perm_overlay (perm_of_inOrder hupper).symm heq zs
  use .sequence lower, .sequence upper, .sequence merged
  refine ⟨mergeOver_sequence hlower, mergeOver_sequence hupper, mergeOver_sequence hmerged, ?_⟩
  apply mergeOver_sequence
  rw [← h.inOrder_eq_of_perm (forall_mem_union hx hlow) hperm, hmerged]

theorem composes_of_leadsOrder_eq_false (hx : ∀ x ∈ xs, x.leadsOrder = false)
    (hy : ∀ y ∈ ys, y.leadsOrder = false) (hz : ∀ z ∈ zs, z.leadsOrder = false) :
  Composes (.sequence xs) (.sequence ys) (.sequence zs)
  := by
  have hxy := forall_mem_union hx hy
  have hyz := forall_mem_union hy hz
  use .sequence (union ys zs), .sequence (union xs ys), .sequence (union xs (union ys zs))
  refine ⟨?_, ?_, ?_, ?_⟩
  · apply mergeOver_sequence (inOrder_of_leadsOrder_eq_false hyz)
  · apply mergeOver_sequence (inOrder_of_leadsOrder_eq_false hxy)
  · apply mergeOver_sequence (inOrder_of_leadsOrder_eq_false (forall_mem_union hx hyz))
  · rw [union_union]
    apply mergeOver_sequence (inOrder_of_leadsOrder_eq_false (forall_mem_union hxy hz))

namespace ListKind

theorem mem_range_of_strings {x : Tree} (h : strings.Holds x) :
  x ∈ Set.range Tree.string
  := by
  obtain ⟨s, rfl⟩ := h
  use s

theorem mem_range_of_integers {x : Tree} (h : integers.Holds x) :
  x ∈ Set.range fun i : ShortInteger => Tree.integer (.ofInt i.val)
  := by
  obtain ⟨i, rfl, hi⟩ := h
  use ⟨i.toInt, hi⟩
  apply congrArg Tree.integer (Int64.ofInt_toInt i)

/-- An item belongs to lists of one kind. -/
theorem eq_of_holds {kind kind' : ListKind} {x : Tree} (h : kind.Holds x) (h' : kind'.Holds x) :
  kind = kind'
  := by
  cases kind with
  | strings =>
    obtain ⟨s, rfl⟩ := h
    cases kind' <;> simp [Holds, leadsOrder] at h' ⊢
  | integers =>
    obtain ⟨i, rfl, -⟩ := h
    cases kind' <;> simp [Holds, leadsOrder] at h' ⊢
  | unsorted =>
    cases kind' with
    | strings =>
      obtain ⟨s, rfl⟩ := h'
      cases h
    | integers =>
      obtain ⟨i, rfl, -⟩ := h'
      cases h
    | unsorted => rfl

/-- Three lists of which every two are of one kind are all of one kind. -/
theorem exists_common {first second third : ListKind}
    (hx : ∀ x ∈ xs, first.Holds x) (hy : ∀ y ∈ ys, first.Holds y)
    (hy' : ∀ y ∈ ys, second.Holds y) (hz : ∀ z ∈ zs, second.Holds z)
    (hx' : ∀ x ∈ xs, third.Holds x) (hz' : ∀ z ∈ zs, third.Holds z) :
  ∃ kind : ListKind, (∀ x ∈ xs, kind.Holds x) ∧ (∀ y ∈ ys, kind.Holds y) ∧ ∀ z ∈ zs, kind.Holds z
  := by
  cases ys with
  | nil => exact ⟨third, hx', nofun, hz'⟩
  | cons y ys =>
    obtain rfl := eq_of_holds (hy y List.mem_cons_self) (hy' y List.mem_cons_self)
    exact ⟨first, hx, hy, hz⟩

theorem composes (kind : ListKind) (hx : ∀ x ∈ xs, kind.Holds x) (hy : ∀ y ∈ ys, kind.Holds y)
    (hz : ∀ z ∈ zs, kind.Holds z) :
  Composes (.sequence xs) (.sequence ys) (.sequence zs)
  := by
  cases kind with
  | strings =>
    apply composes_of_sortable sortable_string (fun x hm => mem_range_of_strings (hx x hm))
      (fun y hm => mem_range_of_strings (hy y hm)) (fun z hm => mem_range_of_strings (hz z hm))
  | integers =>
    apply composes_of_sortable sortable_integer (fun x hm => mem_range_of_integers (hx x hm))
      (fun y hm => mem_range_of_integers (hy y hm)) (fun z hm => mem_range_of_integers (hz z hm))
  | unsorted => exact composes_of_leadsOrder_eq_false hx hy hz

end ListKind

end

/-! ### Mappings -/

/-- The same for what the three trees have under one name. -/
def ComposesAt (top middle base : Option Tree) : Prop :=
  ∃ lower upper merged, layOption base middle .plain = .ok lower
    ∧ layOption middle top .plain = .ok upper ∧ layOption lower top .plain = .ok merged
    ∧ layOption base upper .plain = .ok merged

theorem layOption_some_some {x y merged : Tree} (h : x.mergeOver y = .ok merged) :
  layOption (some y) (some x) .plain = .ok (some merged)
  := by
  rw [layOption, layValue, h]
  rfl

theorem exists_layOption {x y : Option Tree}
    (h : ∀ a ∈ x, ∀ b ∈ y, ∃ merged, a.mergeOver b = .ok merged) :
  ∃ result, layOption y x .plain = .ok result
  := by
  cases x with
  | none => exact ⟨y, rfl⟩
  | some a =>
    cases y with
    | none => exact ⟨some a, rfl⟩
    | some b =>
      obtain ⟨merged, hm⟩ := h a rfl b rfl
      exact ⟨some merged, layOption_some_some hm⟩

/-- Which of the three trees has something under a name decides which merges take place there. -/
theorem composesAt_of_compatible {x y z : Option Tree}
    (hxy : ∀ a ∈ x, ∀ b ∈ y, ∃ merged, a.mergeOver b = .ok merged)
    (hyz : ∀ b ∈ y, ∀ c ∈ z, ∃ merged, b.mergeOver c = .ok merged)
    (hxz : ∀ a ∈ x, ∀ c ∈ z, ∃ merged, a.mergeOver c = .ok merged)
    (hxyz : ∀ a ∈ x, ∀ b ∈ y, ∀ c ∈ z, Composes a b c) :
  ComposesAt x y z
  := by
  cases x with
  | none =>
    obtain ⟨lower, hlower⟩ := exists_layOption hyz
    use lower, y, lower, hlower, rfl, rfl, hlower
  | some a =>
    cases y with
    | none =>
      obtain ⟨merged, hmerged⟩ := exists_layOption hxz
      use z, some a, merged, rfl, rfl, hmerged, hmerged
    | some b =>
      cases z with
      | none =>
        obtain ⟨upper, hupper⟩ := exists_layOption hxy
        use some b, upper, upper, rfl, hupper, hupper
        have hlaid : layValue (some b) a .plain = .ok upper := hupper
        obtain ⟨laid, rfl⟩ := exists_of_layValue hlaid
        rfl
      | some c =>
        obtain ⟨lower, upper, merged, hlower, hupper, hleft, hright⟩ := hxyz a rfl b rfl c rfl
        use some lower, some upper, some merged
        exact ⟨layOption_some_some hlower, layOption_some_some hupper, layOption_some_some hleft,
          layOption_some_some hright⟩

theorem Unmarked.isMarked_of_find? {entries : Entries Tree} (h : Unmarked entries) {key : String}
    {value : Tree} (hfind : entries.find? key = some value) :
  MergeKey.isMarked key = false
  := h (key, value) (Entries.mem_of_find? hfind)

theorem Unmarked.find?_written {entries : Entries Tree} (h : Unmarked entries) {key : MergeKey}
    (hkey : MergeKey.isMarked key.written = true) :
  entries.find? key.written = none
  := by
  cases hfind : entries.find? key.written with
  | none => rfl
  | some value => cases hkey.symm.trans (h.isMarked_of_find? hfind)

theorem layName_of_unmarked {overlay : Entries Tree} (h : Unmarked overlay) (name : String)
    (below : Option Tree) :
  layName overlay name below = layOption below (overlay.find? name) .plain
  := by
  have hover : valueFor? overlay ⟨name, .override⟩ = none := by
    rw [valueFor?_override]
    apply h.find?_written
    simp [MergeKey.isMarked, MergeKey.parse_override]
  have hfall : valueFor? overlay ⟨name, .fallback⟩ = none := by
    rw [valueFor?_fallback]
    apply h.find?_written
    simp [MergeKey.isMarked, MergeKey.parse_fallback]
  have hplain : valueFor? overlay ⟨name, .plain⟩ = overlay.find? name := by
    cases hfind : overlay.find? name with
    | none => exact valueFor?_plain_eq_none_iff.2 (.inr hfind)
    | some value => rw [valueFor?_plain (h.isMarked_of_find? hfind), hfind]
  rw [layName_eq, hplain, hover, hfall]
  cases layOption below (overlay.find? name) .plain <;> rfl

/-- A merge of an overlay without marked keys, name by name. -/
theorem exists_mergeEntries_of_unmarked {overlay base : Entries Tree} (ho : overlay.Ascending)
    (hu : Unmarked overlay) {result : String → Option Tree}
    (h : ∀ name, layOption (base.find? name) (overlay.find? name) .plain = .ok (result name)) :
  ∃ merged : Entries Tree, mergeEntries overlay base = .ok merged
    ∧ ∀ name, merged.find? name = result name
  := by
  apply exists_mergeEntries_of_layName ho
  intro name
  rw [layName_of_unmarked hu, h]

theorem isMarked_of_layOption {xs ys : Entries Tree} (hx : Unmarked xs) (hy : Unmarked ys)
    {key : String} {value : Tree}
    (h : layOption (ys.find? key) (xs.find? key) .plain = .ok (some value)) :
  MergeKey.isMarked key = false
  := by
  cases hxk : xs.find? key with
  | some top => exact hx.isMarked_of_find? hxk
  | none =>
    rw [hxk] at h
    apply hy.isMarked_of_find? (Except.ok.inj h)

theorem composes_mapping {xs ys zs : Entries Tree} (hx : xs.Ascending) (hxu : Unmarked xs)
    (hy : ys.Ascending) (hyu : Unmarked ys) (hz : zs.Ascending)
    (h : ∀ name, ComposesAt (xs.find? name) (ys.find? name) (zs.find? name)) :
  Composes (.mapping xs) (.mapping ys) (.mapping zs)
  := by
  choose lower upper merged hlower hupper hleft hright using h
  obtain ⟨ls, hls, hlfind⟩ := exists_mergeEntries_of_unmarked hy hyu hlower
  obtain ⟨us, hus, hufind⟩ := exists_mergeEntries_of_unmarked hx hxu hupper
  have hua := ascending_of_mergeEntries hy hus
  have huu : Unmarked us := by
    intro e he
    have hfound := hufind e.1
    rw [hua.find?_of_mem he] at hfound
    apply isMarked_of_layOption hxu hyu (hfound ▸ hupper e.1)
  simp only [← hlfind] at hleft
  simp only [← hufind] at hright
  obtain ⟨ms, hms, hmfind⟩ := exists_mergeEntries_of_unmarked hx hxu hleft
  obtain ⟨ns, hns, hnfind⟩ := exists_mergeEntries_of_unmarked hua huu hright
  have hsame : ms = ns := by
    apply Entries.Ascending.ext
    · apply ascending_of_mergeEntries (ascending_of_mergeEntries hz hls) hms
    · apply ascending_of_mergeEntries hz hns
    · intro name
      rw [hmfind, hnfind]
  subst hsame
  use .mapping ls, .mapping us, .mapping ms
  simp [mergeOver, hls, hus, hms, hns, Except.map]

/-! ### All trees -/

theorem Compatible.exists_mergeOver (h : Compatible top base) (ht : top.Ordered) :
  ∃ merged, top.mergeOver base = .ok merged
  := by
  induction h with
  | scalar hx hy => exact ⟨_, mergeOver_of_isScalar hx _⟩
  | sequence kind hx hy =>
    obtain ⟨merged, -, -, hmerged, -⟩ := kind.composes hx hx hy
    exact ⟨merged, hmerged⟩
  | @mapping xs ys hx hy _ ih =>
    have hname : ∀ name, ∃ result, layOption (ys.find? name) (xs.find? name) .plain = .ok result := by
      intro name
      apply exists_layOption
      intro a ha b hb
      apply ih name a b ha hb (ht.get? ha)
    choose result hresult using hname
    obtain ⟨merged, hmerged, -⟩ :=
      exists_mergeEntries_of_unmarked (ordered_mapping_iff.1 ht).1 hx hresult
    use .mapping merged
    rw [mergeOver, hmerged]
    rfl

/-- Of three trees of which every two are compatible, the upper two can be put together first or
the lower two: all merges succeed, and the result is the same.  Nothing is asked about `nan`: a
value that is like nothing is added by every union. -/
theorem mergeOver_assoc (ht : top.Ordered) (hm : middle.Ordered) (hb : base.Ordered)
    (htm : Compatible top middle) (hmb : Compatible middle base) (htb : Compatible top base) :
  ∃ lower upper merged, middle.mergeOver base = .ok lower ∧ top.mergeOver middle = .ok upper
    ∧ top.mergeOver lower = .ok merged ∧ upper.mergeOver base = .ok merged
  := by
  induction htm generalizing base with
  | scalar hx hy => exact composes_of_isScalar hx hy
  | sequence first hx hy =>
    cases hmb with
    | scalar hy' => cases hy'
    | sequence second hy' hz =>
      cases htb with
      | scalar hx' => cases hx'
      | sequence third hx' hz' =>
        obtain ⟨kind, hx, hy, hz⟩ := ListKind.exists_common hx hy hy' hz hx' hz'
        apply kind.composes hx hy hz
  | @mapping xs ys hx hy hxy ih =>
    cases hmb with
    | scalar hy' => cases hy'
    | @mapping _ zs _ hz hyz =>
      cases htb with
      | scalar hx' => cases hx'
      | mapping _ _ hxz =>
        apply composes_mapping (ordered_mapping_iff.1 ht).1 hx (ordered_mapping_iff.1 hm).1 hy
          (ordered_mapping_iff.1 hb).1
        intro name
        apply composesAt_of_compatible
        · intro a ha b hb'
          exact (hxy name a b ha hb').exists_mergeOver (ht.get? ha)
        · intro b hb' c hc
          exact (hyz name b c hb' hc).exists_mergeOver (hm.get? hb')
        · intro a ha c hc
          exact (hxz name a c ha hc).exists_mergeOver (ht.get? ha)
        · intro a ha b hb' c hc
          apply ih name a b ha hb' (ht.get? ha) (hm.get? hb') (hb.get? hc)
            (hyz name b c hb' hc) (hxz name a c ha hc)

/-- A layer that adds an architecture and sets a switch. -/
def archLayer (arch : String) (enabled : Bool) : Tree :=
  .mapping [("arches", .sequence [.string arch]), ("enabled", .bool enabled)]

theorem ordered_archLayer (arch : String) (enabled : Bool) :
  (archLayer arch enabled).Ordered
  := by
  have hkeys : "arches" < "enabled" := by decide
  apply ordered_mapping_iff.2 ⟨List.pairwise_pair.2 hkeys, _⟩
  simp [Ordered, OrderedItems]

theorem unmarked_archLayer (x y : Tree) :
  Unmarked [("arches", x), ("enabled", y)]
  := by
  have harches : MergeKey.isMarked "arches" = false := by decide
  have henabled : MergeKey.isMarked "enabled" = false := by decide
  simp [Unmarked, harches, henabled]

theorem compatible_archLayer (arch arch' : String) (enabled enabled' : Bool) :
  Compatible (archLayer arch enabled) (archLayer arch' enabled')
  := by
  apply Compatible.mapping (unmarked_archLayer _ _) (unmarked_archLayer _ _)
  intro key x y hx hy
  rcases List.mem_pair.1 (Entries.mem_of_find? hx) with hentry | hentry
  · cases hentry
    cases hy
    apply Compatible.sequence .strings
    · exact fun _ hm => ⟨arch, List.mem_singleton.1 hm⟩
    · exact fun _ hm => ⟨arch', List.mem_singleton.1 hm⟩
  · cases hentry
    cases hy
    exact .scalar rfl rfl

theorem mergeOver_assoc_archLayer :
  ∃ lower upper merged, (archLayer "s390x" true).mergeOver (archLayer "x86_64" false) = .ok lower
    ∧ (archLayer "aarch64" true).mergeOver (archLayer "s390x" true) = .ok upper
    ∧ (archLayer "aarch64" true).mergeOver lower = .ok merged
    ∧ upper.mergeOver (archLayer "x86_64" false) = .ok merged
  := mergeOver_assoc (ordered_archLayer _ _) (ordered_archLayer _ _) (ordered_archLayer _ _)
    (compatible_archLayer _ _ _ _) (compatible_archLayer _ _ _ _) (compatible_archLayer _ _ _ _)

end Tree

end LayeredConfig
