import LayeredConfig.Proofs.Issues.Overrides
import LayeredConfig.Proofs.Layering.Path
import LayeredConfig.Proofs.Layering.Union
import LayeredConfig.Proofs.Binary64.Integer
import LayeredConfig.Proofs.Release.Field

/-!
# Issues accumulate along the chain

The field `issues` of an assembly is a stanza with two lists of issues.  Stanzas are merged before
any id is read, and the union of two lists drops entries that are alike.  If the ids can be told
apart, an entry is like another one only if it has the same id (`issueId?_of_alike`), so that a
layer adds its own issues and loses none (`listsIssue_mergeOver`), and the merged stanza lists the
issues of all assemblies of the chain (`issueOverrides_accumulate`).
-/

namespace LayeredConfig

namespace Tree

variable {top base merged entry other stanza : Tree} {key : String} {id : UInt64}

/-! ### Ids that are told apart -/

/-- An id that is neither a float nor a boolean, and if it is an integer then one that binary64
numbers tell apart from the others. -/
def IsTellable : Tree → Prop
  | .float _ | .bool _ => False
  | .integer i => i.toInt.natAbs ≤ 2 ^ 53
  | _ => True

/-- An ordered entry with a tellable id, if it has one. -/
structure IsIssue (entry : Tree) : Prop where
  ordered : entry.Ordered
  tellable : ∀ id, entry.get? "id" = some id → id.IsTellable

theorem eq_of_alike_integer {i : Int64} (hother : other.IsTellable)
    (hi : (Tree.integer i).IsTellable) (h : other.alike (.integer i) = true) :
  other = .integer i
  := by
  cases other with
  | integer j =>
    change (Binary64.ofInt j.toInt).same (Binary64.ofInt i.toInt) = true at h
    rw [Binary64.same_ofInt_iff hother hi] at h
    rw [Int64.toInt_inj.1 h]
  | float x => cases hother
  | bool b => cases hother
  | _ => simp [alike, alikeScalars, number?] at h

theorem issueId?_congr (h : other.get? "id" = entry.get? "id") :
  other.issueId? = entry.issueId?
  := by
  rw [issueId?, issueId?, h]

/-- An issue that is like one with an id has the same id. -/
theorem issueId?_of_alike (hother : other.IsIssue) (hentry : entry.IsIssue)
    (h : other.alike entry = true) (hid : entry.issueId? = some id) :
  other.issueId? = some id
  := by
  rw [← hid]
  apply issueId?_congr
  cases hget : entry.get? "id" with
  | none => simp [issueId?, hget] at hid
  | some value =>
    obtain ⟨own, hown, halike⟩ := exists_get?_of_alike hother.ordered h hget
    rw [hown]
    cases value with
    | integer i =>
      rw [eq_of_alike_integer (hother.tellable _ hown) (hentry.tellable _ hget) halike]
    | string s => rw [eq_of_alike_string halike]
    | _ => simp [issueId?, hget] at hid

/-! ### Gathered lists -/

/-- A list has the entries of two others, except that one of the overlay can be missing that another
entry is like. -/
structure Gathers (gathered overlay base : List Tree) : Prop where
  mem_or_mem : ∀ entry ∈ gathered, entry ∈ overlay ∨ entry ∈ base
  base_subset : base ⊆ gathered
  exists_like : ∀ entry ∈ overlay, ∃ existing ∈ gathered,
    existing = entry ∨ existing.alike entry = true

section

variable {gathered overlay base : List Tree}

theorem gathers_base (base : List Tree) :
  Gathers base [] base
  where
  mem_or_mem _ h := .inr h
  base_subset _ h := h
  exists_like := nofun

theorem gathers_overlay (overlay : List Tree) :
  Gathers overlay overlay []
  where
  mem_or_mem _ h := .inl h
  base_subset := nofun
  exists_like entry h := ⟨entry, h, .inl rfl⟩

theorem gathers_of_inOrder (h : Layering.inOrder (Layering.union overlay base) = .ok gathered) :
  Gathers gathered overlay base
  where
  mem_or_mem entry he := by
    have hunion := (Layering.perm_of_inOrder h).mem_iff.1 he
    exact (Layering.mem_of_mem_union hunion).symm
  base_subset entry he := by
    apply (Layering.perm_of_inOrder h).mem_iff.2
    apply Layering.subset_union overlay base he
  exists_like entry he := by
    obtain ⟨existing, hm, hlike⟩ := Layering.exists_mem_union he base
    use existing, (Layering.perm_of_inOrder h).mem_iff.2 hm

/-- Gathering two lists of issues neither loses nor invents an id. -/
theorem Gathers.exists_issueId?_iff (h : Gathers gathered overlay base)
    (ho : ∀ entry ∈ overlay, entry.IsIssue) (hb : ∀ entry ∈ base, entry.IsIssue) (id : UInt64) :
  (∃ entry ∈ gathered, entry.issueId? = some id)
    ↔ (∃ entry ∈ overlay, entry.issueId? = some id) ∨ ∃ entry ∈ base, entry.issueId? = some id
  := by
  constructor
  · rintro ⟨entry, hm, hid⟩
    rcases h.mem_or_mem entry hm with hm | hm
    · exact .inl ⟨entry, hm, hid⟩
    · exact .inr ⟨entry, hm, hid⟩
  · rintro (⟨entry, hm, hid⟩ | ⟨entry, hm, hid⟩)
    · obtain ⟨existing, hexisting, rfl | hlike⟩ := h.exists_like entry hm
      · use existing
      · use existing, hexisting
        apply issueId?_of_alike _ (ho entry hm) hlike hid
        exact (h.mem_or_mem existing hexisting).elim (ho existing) (hb existing)
    · use entry, h.base_subset hm

end

/-! ### Stanzas -/

/-- What a mapping has under a key, if anything, is a sequence of issues. -/
structure HoldsIssues (stanza : Tree) (key : String) : Prop where
  isMapping : ∃ entries : Entries Tree, stanza = .mapping entries
  isSequence : ∀ list, stanza.get? key = some list → ∃ items, list = .sequence items
  isIssue : ∀ entry ∈ (stanza.getOrNull key).items, entry.IsIssue

/-- A stanza marks neither of its two lists. -/
def MarksNoList (stanza : Tree) : Prop :=
  ∀ key ∈ ["include", "exclude"], ∀ directive ∈ [MergeDirective.override, .fallback],
    stanza.get? (MergeKey.written ⟨key, directive⟩) = none

/-- A stanza whose lists can be merged without losing an issue: a mapping that marks neither list,
with a sequence where it has a list, and ids that are told apart. -/
structure IsStanza (stanza : Tree) : Prop where
  isMapping : ∃ entries : Entries Tree, stanza = .mapping entries
  marksNoList : stanza.MarksNoList
  isSequence : ∀ key ∈ ["include", "exclude"], ∀ list, stanza.get? key = some list →
    ∃ items, list = .sequence items
  tellable : ∀ key ∈ ["include", "exclude"], ∀ entry ∈ (stanza.getOrNull key).items, ∀ id,
    entry.get? "id" = some id → id.IsTellable

theorem getOrNull_of_get? {value : Tree} (h : stanza.get? key = some value) :
  stanza.getOrNull key = value
  := by
  rw [getOrNull, h]
  rfl

theorem items_getOrNull_of_none (h : stanza.get? key = none) :
  (stanza.getOrNull key).items = []
  := by
  rw [getOrNull, h]
  rfl

theorem IsStanza.holdsIssues (hs : stanza.IsStanza) (ho : stanza.Ordered)
    (hkey : key ∈ ["include", "exclude"]) :
  stanza.HoldsIssues key
  where
  isMapping := hs.isMapping
  isSequence := hs.isSequence key hkey
  isIssue entry hentry := by
    refine ⟨?_, hs.tellable key hkey entry hentry⟩
    cases hget : stanza.get? key with
    | none =>
      rw [items_getOrNull_of_none hget] at hentry
      cases hentry
    | some list =>
      obtain ⟨items, rfl⟩ := hs.isSequence key hkey list hget
      rw [getOrNull_of_get? hget] at hentry
      apply ordered_sequence_iff.1 (ho.get? hget) entry hentry

/-! ### One layer -/

/-- Under a key that the overlay does not mark, its value is merged over that of the base; either
can be missing. -/
theorem layOption_mergeOver {overlay below : Entries Tree} (ho : overlay.Ascending)
    (h : (Tree.mapping overlay).mergeOver (.mapping below) = .ok merged)
    (hplain : MergeKey.isMarked key = false)
    (hunmarked : ∀ directive ∈ [MergeDirective.override, .fallback],
      overlay.find? (MergeKey.written ⟨key, directive⟩) = none) :
  layOption (below.find? key) (overlay.find? key) .plain = .ok (merged.get? key)
  := by
  obtain ⟨entries, rfl, hname⟩ := exists_of_mergeOver_mapping ho h
  have hover := hunmarked .override (by simp)
  have hfall := hunmarked .fallback (by simp)
  have hlay := hname key
  rw [layName_eq, valueFor?_plain hplain, valueFor?_override, hover, valueFor?_fallback, hfall]
    at hlay
  rw [get?_mapping, ← hlay]
  cases layOption (below.find? key) (overlay.find? key) .plain <;> rfl

/-- Merging a list over another one, where either can be missing, gathers the two. -/
theorem gathers_of_layOption (ht : top.HoldsIssues key) (hb : base.HoldsIssues key)
    (h : layOption (base.get? key) (top.get? key) .plain = .ok (merged.get? key)) :
  (∀ list, merged.get? key = some list → ∃ items, list = .sequence items)
    ∧ Gathers (merged.getOrNull key).items (top.getOrNull key).items (base.getOrNull key).items
  := by
  cases htop : top.get? key with
  | none =>
    rw [htop] at h
    have hkept : merged.get? key = base.get? key := (Except.ok.inj h).symm
    rw [items_getOrNull_of_none htop, getOrNull, hkept]
    use hb.isSequence
    apply gathers_base
  | some list =>
    obtain ⟨xs, rfl⟩ := ht.isSequence list htop
    rw [htop] at h
    rw [getOrNull_of_get? htop]
    cases hbase : base.get? key with
    | none =>
      rw [hbase] at h
      have htaken : merged.get? key = some (.sequence xs) := (Except.ok.inj h).symm
      rw [getOrNull_of_get? htaken, items_getOrNull_of_none hbase, htaken]
      use fun list hlist => ⟨xs, (Option.some.inj hlist).symm⟩
      apply gathers_overlay
    | some list =>
      obtain ⟨ys, rfl⟩ := hb.isSequence list hbase
      rw [hbase] at h
      obtain ⟨_, hunited, hmerged⟩ := Except.map_eq_ok_iff.1 h
      obtain ⟨sorted, hsorted, rfl⟩ := Except.map_eq_ok_iff.1 hunited
      rw [getOrNull_of_get? hmerged.symm, getOrNull_of_get? hbase, ← hmerged]
      use fun list hlist => ⟨sorted, (Option.some.inj hlist).symm⟩
      apply gathers_of_inOrder hsorted

/-- A stanza laid over another one lists the issues of both. -/
theorem listsIssue_mergeOver (ho : top.Ordered) (hs : top.IsStanza)
    (hkey : key ∈ ["include", "exclude"]) (hb : base.HoldsIssues key)
    (h : top.mergeOver base = .ok merged) :
  merged.HoldsIssues key
    ∧ ∀ id, merged.ListsIssue key id ↔ top.ListsIssue key id ∨ base.ListsIssue key id
  := by
  have ht := hs.holdsIssues ho hkey
  obtain ⟨overlay, rfl⟩ := ht.isMapping
  obtain ⟨below, rfl⟩ := hb.isMapping
  have hplain : MergeKey.isMarked key = false := by
    simp only [List.mem_cons, List.not_mem_nil, or_false] at hkey
    rcases hkey with rfl | rfl
    · decide
    · decide
  have hlay := layOption_mergeOver (ordered_mapping_iff.1 ho).1 h hplain (hs.marksNoList key hkey)
  obtain ⟨hsequence, hgathers⟩ := gathers_of_layOption ht hb hlay
  obtain ⟨entries, rfl, -⟩ := exists_of_mergeOver_mapping (ordered_mapping_iff.1 ho).1 h
  constructor
  · refine ⟨⟨entries, rfl⟩, hsequence, ?_⟩
    intro entry he
    exact (hgathers.mem_or_mem entry he).elim (ht.isIssue entry) (hb.isIssue entry)
  · apply hgathers.exists_issueId?_iff ht.isIssue hb.isIssue

/-! ### All layers -/

/-- Stanzas laid over each other list the issues of all of them. -/
theorem listsIssue_mergeLayers {layers : List Tree}
    (hl : ∀ layer ∈ layers, layer.Ordered ∧ layer.IsStanza) (hkey : key ∈ ["include", "exclude"])
    (hb : base.HoldsIssues key) (h : mergeLayers layers base = .ok merged) (id : UInt64) :
  merged.ListsIssue key id ↔ ∃ layer ∈ base :: layers, layer.ListsIssue key id
  := by
  induction layers generalizing base with
  | nil =>
    cases h
    simp
  | cons layer layers ih =>
    rw [mergeLayers, List.foldlM_cons] at h
    obtain ⟨next, hnext, hrest⟩ := Except.bind_eq_ok_iff.1 h
    obtain ⟨ho, hs⟩ := hl layer List.mem_cons_self
    obtain ⟨hholds, hlists⟩ := listsIssue_mergeOver ho hs hkey hb hnext
    rw [ih (fun other hm => hl other (List.mem_cons_of_mem _ hm)) hholds hrest]
    simp only [List.exists_mem_cons_iff, hlists id]
    rw [or_assoc, or_left_comm]

/-- A stack of stanzas lists the issues of all of them. -/
theorem listsIssue_stack {layers : List Tree} {result : Option Tree}
    (hl : ∀ layer ∈ layers, layer.Ordered ∧ layer.IsStanza) (hkey : key ∈ ["include", "exclude"])
    (h : stack layers = .ok result) (id : UInt64) :
  (result.getD .null).ListsIssue key id ↔ ∃ layer ∈ layers, layer.ListsIssue key id
  := by
  cases layers with
  | nil =>
    cases h
    constructor
    · rintro ⟨entry, hm, -⟩
      cases hm
    · rintro ⟨layer, hm, -⟩
      cases hm
  | cons lowest upper =>
    obtain ⟨merged, hm, rfl⟩ := Except.map_eq_ok_iff.1 h
    obtain ⟨ho, hs⟩ := hl lowest List.mem_cons_self
    apply listsIssue_mergeLayers (fun layer hm => hl layer (List.mem_cons_of_mem _ hm)) hkey
      (hs.holdsIssues ho hkey) hm

end Tree

namespace ReleasesDocument

variable {doc : ReleasesDocument} {name : String} {path : List String}

/-! ### The chain -/

/-- An assembly on a path lists an issue under a key of its stanza. -/
def ListsIssue (doc : ReleasesDocument) (path : List String) (key : String) (id : UInt64) : Prop :=
  ∃ other ∈ path, ∃ target stanza, doc.assembly? other = some target
    ∧ target.field? "issues" = some stanza ∧ stanza.ListsIssue key id

theorem mem_fieldLayers {field : String} {names : List String} {layer : Tree} :
  layer ∈ doc.fieldLayers field names
    ↔ ∃ name ∈ names, ∃ target, doc.assembly? name = some target
      ∧ target.field? field = some layer
  := by
  simp only [fieldLayers, List.mem_filterMap, Option.bind_eq_some_iff]

/-- Along a chain that ends, a field is the stack of the values for it. -/
theorem field_of_chain {field : String} (hc : doc.chain name = .ok path) :
  doc.field field (some name) = Tree.stack (doc.fieldLayers field path.reverse)
  := by
  rw [ReleasesDocument.field, resolve_some, hc]
  apply foldlM_fieldLayer_none

/-- The overrides are read from the field `issues`, where it is missing from null. -/
theorem issueOverrides_of_issuesConfig {result : Option Tree}
    (h : doc.issuesConfig (some name) = .ok result) :
  doc.issueOverrides (some name) = IssueOverrides.ofConfig (result.getD .null)
  := by
  rw [issueOverrides, h]
  cases result with
  | none => rfl
  | some config => rfl

/-- Let every field `issues` on a chain be a stanza whose ids are told apart, and let these fields be
merged.  The issue overrides are then what two sets of ids call for: those that some assembly of the
chain includes, and those that one excludes.  Disjoint sets are the overrides, and if they meet then
the ids that they share are the conflict, in ascending order. -/
theorem issueOverrides_accumulate (ho : doc.root.Ordered) (hc : doc.chain name = .ok path)
    (hs : ∀ other ∈ path, ∀ target stanza, doc.assembly? other = some target →
      target.field? "issues" = some stanza → stanza.IsStanza)
    {result : Option Tree} (hr : doc.issuesConfig (some name) = .ok result) :
  IssueOverrides.Answers (doc.issueOverrides (some name))
    { id | doc.ListsIssue path "include" id } { id | doc.ListsIssue path "exclude" id }
  := by
  have hlayers : ∀ layer ∈ doc.fieldLayers "issues" path.reverse,
      layer.Ordered ∧ layer.IsStanza := by
    intro layer hm
    obtain ⟨other, hother, target, ha, hf⟩ := mem_fieldLayers.1 hm
    use (ordered_of_assembly? ho ha).get? hf
    apply hs other (List.mem_reverse.1 hother) target layer ha hf
  have hlists : ∀ key ∈ ["include", "exclude"], ∀ id,
      (result.getD .null).ListsIssue key id ↔ doc.ListsIssue path key id := by
    intro key hkey id
    rw [Tree.listsIssue_stack hlayers hkey ((field_of_chain hc).symm.trans hr)]
    constructor
    · rintro ⟨layer, hm, hid⟩
      obtain ⟨other, hother, target, ha, hf⟩ := mem_fieldLayers.1 hm
      exact ⟨other, List.mem_reverse.1 hother, target, layer, ha, hf, hid⟩
    · rintro ⟨other, hother, target, stanza, ha, hf, hid⟩
      exact ⟨stanza, mem_fieldLayers.2 ⟨other, List.mem_reverse.2 hother, target, ha, hf⟩, hid⟩
  rw [issueOverrides_of_issuesConfig hr]
  simp only [← hlists "include" (by simp), ← hlists "exclude" (by simp)]
  apply IssueOverrides.answers_ofConfig

/-! ### Issues on three levels -/

/-- A stanza that lists issues by their ids. -/
def issueStanza (included excluded : List Tree) : Tree :=
  .mapping [("exclude", .sequence (excluded.map fun id => .mapping [("id", id)])),
    ("include", .sequence (included.map fun id => .mapping [("id", id)]))]

theorem isStanza_issueStanza {included excluded : List Tree}
    (h : ∀ id ∈ excluded ++ included, id.IsTellable) :
  (issueStanza included excluded).IsStanza
  := by
  have hissue : ∀ ids, ids ⊆ excluded ++ included →
      ∀ entry ∈ ids.map fun id => Tree.mapping [("id", id)], ∀ id, entry.get? "id" = some id →
        id.IsTellable := by
    intro ids hids entry hentry id hid
    obtain ⟨own, hm, rfl⟩ := List.mem_map.1 hentry
    cases hid
    apply h _ (hids hm)
  constructor
  case isMapping => exact ⟨_, rfl⟩
  case marksNoList =>
    simp only [Tree.MarksNoList, List.forall_mem_cons]
    refine ⟨⟨rfl, rfl, nofun⟩, ⟨rfl, rfl, nofun⟩, nofun⟩
  case isSequence =>
    simp only [List.forall_mem_cons]
    refine ⟨?_, ?_, nofun⟩
    · rintro list ⟨⟩
      exact ⟨_, rfl⟩
    · rintro list ⟨⟩
      exact ⟨_, rfl⟩
  case tellable =>
    simp only [List.forall_mem_cons]
    refine ⟨?_, ?_, nofun⟩
    · apply hissue included (List.subset_append_right _ _)
    · apply hissue excluded (List.subset_append_left _ _)

/-- The lowest release includes two issues.  The one above it has no issues, and the next one
states one of them again in another spelling and excludes a third one, which the topmost release
includes. -/
def sweptReleases : ReleasesDocument where
  root := .mapping [("releases", .mapping [
    ("1", release [] [("issues", issueStanza [.integer 7, .string "22"] [])]),
    ("2", release [("assembly", .string "1")] []),
    ("3", release [("assembly", .string "2")]
      [("issues", issueStanza [.string "007", .string "OCPBUGS-3"] [.integer 4])]),
    ("4", release [("assembly", .string "3")] [("issues", issueStanza [.string "4"] [])])])]

theorem ordered_sweptReleases :
  sweptReleases.root.Ordered
  := by
  decide +kernel

theorem isStanza_sweptReleases {name : String} {target : Assembly} {stanza : Tree}
    (ha : sweptReleases.assembly? name = some target) (hf : target.field? "issues" = some stanza) :
  stanza.IsStanza
  := by
  have hn := mem_names_of_assembly? ha
  have hnames : sweptReleases.names = ["1", "2", "3", "4"] := by decide
  simp only [hnames, List.mem_cons, List.not_mem_nil, or_false] at hn
  rcases hn with rfl | rfl | rfl | rfl
  · cases ha
    cases hf
    apply isStanza_issueStanza
    simp [Tree.IsTellable]
  · cases ha
    cases hf
  · cases ha
    cases hf
    apply isStanza_issueStanza
    simp [Tree.IsTellable]
  · cases ha
    cases hf
    apply isStanza_issueStanza
    simp [Tree.IsTellable]

/-- What the third release excludes is a conflict as soon as the topmost one includes it. -/
theorem issueOverrides_accumulate_sweptReleases :
  sweptReleases.chain "3" = .ok ["3", "2", "1"]
    ∧ IssueOverrides.Answers (sweptReleases.issueOverrides (some "3"))
      { id | sweptReleases.ListsIssue ["3", "2", "1"] "include" id }
      { id | sweptReleases.ListsIssue ["3", "2", "1"] "exclude" id }
    ∧ sweptReleases.issueOverrides (some "3") = .ok ⟨[7, 22], [4]⟩
    ∧ sweptReleases.chain "4" = .ok ["4", "3", "2", "1"]
    ∧ IssueOverrides.Answers (sweptReleases.issueOverrides (some "4"))
      { id | sweptReleases.ListsIssue ["4", "3", "2", "1"] "include" id }
      { id | sweptReleases.ListsIssue ["4", "3", "2", "1"] "exclude" id }
    ∧ sweptReleases.issueOverrides (some "4") = .error (.issueConflict [4])
  := by
  have hthird : sweptReleases.chain "3" = .ok ["3", "2", "1"] := by decide +kernel
  have hfourth : sweptReleases.chain "4" = .ok ["4", "3", "2", "1"] := by decide +kernel
  have hmerged : sweptReleases.issuesConfig (some "3") = .ok (some (issueStanza
      [.integer 7, .string "22", .string "007", .string "OCPBUGS-3"] [.integer 4])) := by
    decide +kernel
  have hlonger : sweptReleases.issuesConfig (some "4") = .ok (some (issueStanza
      [.integer 7, .string "22", .string "007", .string "OCPBUGS-3", .string "4"]
      [.integer 4])) := by
    decide +kernel
  refine ⟨hthird, ?_, by decide +kernel, hfourth, ?_, by decide +kernel⟩
  · apply issueOverrides_accumulate ordered_sweptReleases hthird
      (fun _ _ _ _ ha hf => isStanza_sweptReleases ha hf) hmerged
  · apply issueOverrides_accumulate ordered_sweptReleases hfourth
      (fun _ _ _ _ ha hf => isStanza_sweptReleases ha hf) hlonger

end ReleasesDocument

end LayeredConfig
