import LayeredConfig.Proofs.Layering.Order
import LayeredConfig.Proofs.Layering.Path
import LayeredConfig.Proofs.Layering.Union
import LayeredConfig.Proofs.Pins.Dependency

/-!
# Pins after a merge

Where both the overlay and the base list dependencies, the merged list is the one of the base
followed by the entries that the overlay adds, and the last of its entries that pins a package
decides.  An entry that the overlay states again keeps the place it has in the base, so a later
entry of the base still prevails over it (`restated_pin_is_not_in_force`); a build that the overlay
adds, or has no rival in either list, is in force after the merge (`dependencyPins_mergeOver`).
-/

namespace LayeredConfig.Tree

open Layering

variable {top base merged entry other : Tree} {el : UInt32} {package text : String}

/-! ### Entries -/

/-- An ordered entry that is like one that pins a build pins it too. -/
theorem pin?_of_alike (ho : other.Ordered) (h : other.alike entry = true)
    (hpin : entry.pin? el package = some text) :
  other.pin? el package = some text
  := by
  rw [pin?, Option.filter_eq_some_iff, nonemptyString?_eq_some_iff] at hpin ⊢
  obtain ⟨⟨hget, htext⟩, hpackage⟩ := hpin
  obtain ⟨own, hown, halike⟩ := exists_get?_of_alike ho h hget
  rw [eq_of_alike_string halike] at hown
  exact ⟨⟨hown, htext⟩, hpackage⟩

/-- Only a mapping pins a build. -/
theorem exists_mapping_of_pin? (hpin : entry.pin? el package = some text) :
  ∃ entries : Entries Tree, entry = .mapping entries
  := by
  rw [pin?, Option.filter_eq_some_iff, nonemptyString?_eq_some_iff] at hpin
  apply exists_mapping_of_get? hpin.1.1

/-! ### The merged list -/

/-- A tree that lists dependencies has a sequence of them. -/
theorem lookup_of_mem_dependencies (h : entry ∈ top.dependencies) :
  top.lookup dependencyPath = some (.sequence top.dependencies)
  := by
  rw [dependencies] at h ⊢
  cases hlookup : top.lookup dependencyPath with
  | none =>
    rw [hlookup] at h
    cases h
  | some list =>
    cases list with
    | sequence items => rfl
    | _ =>
      rw [hlookup] at h
      cases h

theorem dependencies_of_lookup {items : List Tree}
    (h : base.lookup dependencyPath = some (.sequence items)) :
  base.dependencies = items
  := by
  rw [dependencies, h]
  rfl

theorem ordered_of_mem_dependencies (ho : base.Ordered) (h : entry ∈ base.dependencies) :
  entry.Ordered
  := ordered_sequence_iff.1 (ho.lookup (lookup_of_mem_dependencies h)) entry h

/-- The list of dependencies is at the end of a plain path, if no marked key stands in the
way. -/
theorem plainPath_dependencyPath
    (houter : top.lookup [MergeKey.written ⟨"dependencies", .override⟩] = none)
    (hinner : top.lookup ["dependencies", MergeKey.written ⟨"rpms", .override⟩] = none)
    (h : entry ∈ top.dependencies) :
  top.PlainPath dependencyPath
  := by
  obtain ⟨child, hchild, hrest⟩ := Option.bind_eq_some_iff.1 (lookup_of_mem_dependencies h)
  obtain ⟨list, hlist, -⟩ := Option.bind_eq_some_iff.1 hrest
  have hkey : ∀ (t : Tree) key, t.lookup [key] = t.get? key := fun t key => Option.bind_fun_some (t.get? key)
  rw [hkey] at houter
  rw [lookup, hchild, Option.bind_some, hkey] at hinner
  exact ⟨by decide, houter, child, hchild, by decide, hinner, list, hlist, trivial⟩

/-- A build that the overlay pins is pinned by an entry of the union. -/
theorem exists_pin?_of_mem_overlay {overlay below : List Tree} (ho : ∀ e ∈ overlay, e.Ordered)
    (hb : ∀ e ∈ below, e.Ordered) (hentry : entry ∈ overlay)
    (hpin : entry.pin? el package = some text) :
  ∃ existing ∈ union overlay below, existing.pin? el package = some text
  := by
  obtain ⟨existing, hm, rfl | hlike⟩ := exists_mem_union hentry below
  · use existing
  · use existing, hm
    apply pin?_of_alike _ hlike hpin
    exact (mem_of_mem_union hm).elim (hb existing) (ho existing)

/-- An overlay that pins a build is laid over a list of dependencies by uniting the two, and over
anything else by keeping its own list. -/
theorem dependencies_mergeOver (ht : top.Ordered) (hb : base.Ordered)
    (h : top.mergeOver base = .ok merged) (hp : top.PlainPath dependencyPath)
    (hentry : entry ∈ top.dependencies) (hpin : entry.pin? el package = some text) :
  (∀ below, base.lookup dependencyPath = some (.sequence below) →
      merged.dependencies = union top.dependencies below)
    ∧ ((∀ below, base.lookup dependencyPath ≠ some (.sequence below)) →
      merged.dependencies = top.dependencies)
  := by
  have hlay := lookup_mergeOver ht h hp (lookup_of_mem_dependencies hentry)
  constructor
  · intro below hbelow
    rw [hbelow] at hlay
    obtain ⟨list, hlist, hmerged⟩ := Except.map_eq_ok_iff.1 hlay
    obtain ⟨sorted, hsorted, rfl⟩ := Except.map_eq_ok_iff.1 hlist
    obtain ⟨existing, hm, hexisting⟩ := exists_pin?_of_mem_overlay
      (fun e => ordered_of_mem_dependencies ht) (ordered_sequence_iff.1 (hb.lookup hbelow)) hentry
      hpin
    obtain ⟨entries, rfl⟩ := exists_mapping_of_pin? hexisting
    rw [dependencies_of_lookup hmerged.symm]
    apply eq_of_inOrder_of_mapping_mem hsorted hm
  · intro hother
    have hkept : merged.lookup dependencyPath = some (.sequence top.dependencies) := by
      cases hbase : base.lookup dependencyPath with
      | none =>
        rw [hbase] at hlay
        exact (Except.ok.inj hlay).symm
      | some list =>
        rw [hbase] at hlay
        cases list with
        | sequence below => exact absurd hbase (hother below)
        | _ => exact (Except.ok.inj hlay).symm
    apply dependencies_of_lookup hkept

/-! ### Pins in force -/

theorem exists_dependencyPins_of_append {rest : List Tree} {pins : Entries String}
    (hm : merged.dependencies = base.dependencies ++ rest)
    (h : merged.dependencyPins el = .ok pins) :
  ∃ basePins, base.dependencyPins el = .ok basePins
  := by
  rw [dependencyPins_eq_foldlM, hm, List.foldlM_append, ← dependencyPins_eq_foldlM] at h
  obtain ⟨basePins, hbase, -⟩ := Except.bind_eq_ok_iff.1 h
  use basePins

/-- A build that the overlay adds, and no later entry of it rivals, is the last one. -/
theorem lastPin?_append_added {earlier later below : List Tree}
    (hpin : entry.pin? el package = some text)
    (hlater : ∀ e ∈ later, e.pin? el package = none)
    (hnew : ∀ e ∈ below ++ earlier, e.alike entry = false) :
  lastPin? (below ++ added (earlier ++ entry :: later) below) el package = some text
  := by
  have hadded : ¬ HasLike (below ++ added earlier below) entry := by
    rintro ⟨existing, hm, halike⟩
    have hm' : existing ∈ below ++ earlier := by
      rcases List.mem_append.1 hm with hm | hm
      · apply List.mem_append_left _ hm
      · apply List.mem_append_right _ ((added_sublist earlier below).subset hm)
    cases (hnew existing hm').symm.trans halike
  rw [added_append, added_cons_of_not_hasLike hadded, ← List.append_assoc]
  apply lastPin?_append_cons _ hpin
  intro e he
  apply hlater e ((added_sublist later _).subset he)

/-- A package that the overlay pins stays pinned. -/
theorem exists_lastPin?_append_added {overlay below : List Tree} (ho : ∀ e ∈ overlay, e.Ordered)
    (hb : ∀ e ∈ below, e.Ordered) (hentry : entry ∈ overlay)
    (hpin : entry.pin? el package = some text) :
  ∃ build, lastPin? (below ++ added overlay below) el package = some build
  := by
  obtain ⟨existing, hm, hexisting⟩ := exists_pin?_of_mem_overlay ho hb hentry hpin
  rw [union_eq_append_added] at hm
  cases hlast : lastPin? (below ++ added overlay below) el package with
  | some build => use build
  | none => cases hexisting.symm.trans (lastPin?_eq_none_iff.1 hlast existing hm)

/-- The build that is in force is one of the overlay or the one of the base. -/
theorem eq_of_lastPin?_append_added {overlay below : List Tree} {build : String}
    (h : lastPin? (below ++ added overlay below) el package = some build)
    (hown : ∀ e ∈ overlay, ∀ build, e.pin? el package = some build → build = text)
    (hbelow : ∀ build, lastPin? below el package = some build → build = text) :
  build = text
  := by
  rw [lastPin?_append] at h
  rcases Option.or_eq_some_iff.1 h with h | ⟨-, h⟩
  · obtain ⟨e, he, hpin⟩ := exists_of_lastPin? h
    apply hown e ((added_sublist overlay below).subset he) build hpin
  · apply hbelow build h

/-- Let an overlay with a pin of a package be laid over a base.  If the base has no list of
dependencies, the pin is in force after the merge.  If it has one, the package is pinned by the
last entry that does so of this list followed by what the overlay adds to it.  In both cases the pin
of the overlay is in force if the entry that decides it is like none of the base and none before it
in the overlay, and also if neither the overlay nor the base has another pin of the package to
offer. -/
theorem dependencyPins_mergeOver (ht : top.Ordered) (hb : base.Ordered)
    (h : top.mergeOver base = .ok merged)
    (houter : top.lookup [MergeKey.written ⟨"dependencies", .override⟩] = none)
    (hinner : top.lookup ["dependencies", MergeKey.written ⟨"rpms", .override⟩] = none)
    {topPins mergedPins : Entries String} (htop : top.dependencyPins el = .ok topPins)
    (hmerged : merged.dependencyPins el = .ok mergedPins)
    (hpin : topPins.find? package = some text) :
  ((∀ below, base.lookup dependencyPath ≠ some (.sequence below)) →
      mergedPins.find? package = some text)
    ∧ (∀ below, base.lookup dependencyPath = some (.sequence below) →
      ∃ build, mergedPins.find? package = some build
        ∧ lastPin? (below ++ added top.dependencies below) el package = some build)
    ∧ (∀ earlier entry later, top.dependencies = earlier ++ entry :: later →
      entry.pin? el package = some text → (∀ e ∈ later, e.pin? el package = none) →
      (∀ e ∈ base.dependencies ++ earlier, e.alike entry = false) →
      mergedPins.find? package = some text)
    ∧ ((∀ e ∈ top.dependencies, ∀ build, e.pin? el package = some build → build = text) →
      (∀ basePins build, base.dependencyPins el = .ok basePins →
        basePins.find? package = some build → build = text) →
      mergedPins.find? package = some text)
  := by
  rw [find?_dependencyPins htop] at hpin
  rw [find?_dependencyPins hmerged]
  obtain ⟨decisive, hm, hdecisive⟩ := exists_of_lastPin? hpin
  obtain ⟨hunited, hkept⟩ := dependencies_mergeOver ht hb h
    (plainPath_dependencyPath houter hinner hm) hm hdecisive
  by_cases hlist : ∃ below, base.lookup dependencyPath = some (.sequence below)
  · obtain ⟨below, hbelow⟩ := hlist
    have hbase := dependencies_of_lookup hbelow
    have hdependencies := hunited below hbelow
    rw [union_eq_append_added] at hdependencies
    obtain ⟨build, hbuild⟩ := exists_lastPin?_append_added
      (fun e => ordered_of_mem_dependencies ht) (ordered_sequence_iff.1 (hb.lookup hbelow)) hm
      hdecisive
    rw [hbase, hdependencies]
    refine ⟨fun hnone => absurd hbelow (hnone below), ?_, ?_, ?_⟩
    · intro below' hbelow'
      cases hbelow.symm.trans hbelow'
      use build, hbuild, hbuild
    · rintro earlier entry later hsplit hentry hlater hnew
      rw [hsplit]
      apply lastPin?_append_added hentry hlater hnew
    · intro hown hother
      obtain ⟨basePins, hpins⟩ := exists_dependencyPins_of_append (hbase ▸ hdependencies) hmerged
      have hsame : build = text := by
        apply eq_of_lastPin?_append_added hbuild hown
        intro build hbuild
        apply hother basePins build hpins
        rw [find?_dependencyPins hpins, hbase, hbuild]
      rw [hbuild, hsame]
  · have hlast : lastPin? merged.dependencies el package = some text := by
      rw [hkept fun below hbelow => hlist ⟨below, hbelow⟩, hpin]
    exact ⟨fun _ => hlast, fun below hbelow => absurd ⟨below, hbelow⟩ hlist,
      fun _ _ _ _ _ _ _ => hlast, fun _ _ => hlast⟩

/-- A configuration that lists builds for el version 8. -/
def kernelConfig (builds : List String) : Tree :=
  .mapping [("dependencies", .mapping [("rpms",
    .sequence (builds.map fun build => .mapping [("el8", .string build)]))])]

theorem ordered_kernelConfig (builds : List String) :
  (kernelConfig builds).Ordered
  := by
  simp [kernelConfig, Ordered, OrderedEntries, orderedItems_iff, Entries.Ascending]

/-- No marked key stands on the way to the builds. -/
theorem lookup_kernelConfig (builds : List String) (directive : MergeDirective)
    (h : directive ≠ .plain) :
  (kernelConfig builds).lookup [MergeKey.written ⟨"dependencies", directive⟩] = none
    ∧ (kernelConfig builds).lookup ["dependencies", MergeKey.written ⟨"rpms", directive⟩] = none
  := by
  cases directive with
  | plain => exact absurd rfl h
  | override => exact ⟨rfl, rfl⟩
  | fallback => exact ⟨rfl, rfl⟩

theorem dependencyPins_mergeOver_kernelConfig :
  (kernelConfig ["kernel-4.18.0-3"]).mergeOver
      (kernelConfig ["kernel-4.18.0-1", "kernel-4.18.0-2"])
      = .ok (kernelConfig ["kernel-4.18.0-1", "kernel-4.18.0-2", "kernel-4.18.0-3"])
    ∧ (kernelConfig ["kernel-4.18.0-1", "kernel-4.18.0-2", "kernel-4.18.0-3"]).dependencyPins 8
      = .ok [("kernel", "kernel-4.18.0-3")]
    ∧ Entries.find? "kernel" [("kernel", "kernel-4.18.0-3")] = some "kernel-4.18.0-3"
  := by
  have hmerge : (kernelConfig ["kernel-4.18.0-3"]).mergeOver
      (kernelConfig ["kernel-4.18.0-1", "kernel-4.18.0-2"])
      = .ok (kernelConfig ["kernel-4.18.0-1", "kernel-4.18.0-2", "kernel-4.18.0-3"]) := by rfl
  have htop : (kernelConfig ["kernel-4.18.0-3"]).dependencyPins 8
      = .ok [("kernel", "kernel-4.18.0-3")] := by rfl
  have hmerged : (kernelConfig ["kernel-4.18.0-1", "kernel-4.18.0-2",
      "kernel-4.18.0-3"]).dependencyPins 8 = .ok [("kernel", "kernel-4.18.0-3")] := by rfl
  have hmarked := lookup_kernelConfig ["kernel-4.18.0-3"] .override (by decide)
  refine ⟨hmerge, hmerged, ?_⟩
  apply (dependencyPins_mergeOver (ordered_kernelConfig _) (ordered_kernelConfig _) hmerge hmarked.1
    hmarked.2 htop hmerged rfl).2.2.1 [] _ [] rfl rfl nofun
  decide

/-- An entry that the overlay states again stays where the base has it, and a later entry of the
base prevails over it: the build that the overlay pins is not in force after the merge. -/
theorem restated_pin_is_not_in_force :
  (∀ builds, (kernelConfig builds).Ordered)
    ∧ (∀ builds directive, directive ≠ .plain →
      (kernelConfig builds).lookup [MergeKey.written ⟨"dependencies", directive⟩] = none
      ∧ (kernelConfig builds).lookup ["dependencies", MergeKey.written ⟨"rpms", directive⟩] = none)
    ∧ (kernelConfig ["kernel-4.18.0-1"]).mergeOver
        (kernelConfig ["kernel-4.18.0-1", "kernel-4.18.0-2"])
      = .ok (kernelConfig ["kernel-4.18.0-1", "kernel-4.18.0-2"])
    ∧ ∃ topPins mergedPins : Entries String,
      (kernelConfig ["kernel-4.18.0-1"]).dependencyPins 8 = .ok topPins
      ∧ (kernelConfig ["kernel-4.18.0-1", "kernel-4.18.0-2"]).dependencyPins 8 = .ok mergedPins
      ∧ topPins.find? "kernel" = some "kernel-4.18.0-1"
      ∧ mergedPins.find? "kernel" ≠ topPins.find? "kernel"
  := by
  refine ⟨ordered_kernelConfig, lookup_kernelConfig, by rfl, [("kernel", "kernel-4.18.0-1")],
    [("kernel", "kernel-4.18.0-2")], by rfl, by rfl, by decide, by decide⟩

end LayeredConfig.Tree
