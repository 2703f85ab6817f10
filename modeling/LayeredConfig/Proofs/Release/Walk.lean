import LayeredConfig.Release.Basis
import Mathlib.Data.Finset.Card
import Mathlib.Data.Finset.Dedup

/-!
# The walk along the bases

`ReleasesDocument.ancestor? doc name n` is the name that `n` steps from `name` to the parent
lead to.  The walk from a name ends when some step leads nowhere, and otherwise comes back to
a name that it has met.  `chain` tells the two apart (`chain_decides_walk`): it lists the
names of a walk that ends, and reports a walk that does not with the names up to the first
one that is met twice.
-/

namespace LayeredConfig.ReleasesDocument

variable {doc : ReleasesDocument}

/-- The name that a number of steps from a name to the parent lead to. -/
def ancestor? (doc : ReleasesDocument) (name : String) : Nat → Option String
  | 0 => some name
  | n + 1 => (doc.ancestor? name n).bind doc.parent?

/-- The names that the document defines an assembly for. -/
def definedNames (doc : ReleasesDocument) : Finset String :=
  (doc.names.filter fun name => (doc.assembly? name).isSome).toFinset

theorem mem_definedNames {name : String} :
  name ∈ doc.definedNames ↔ (doc.assembly? name).isSome
  := by
  rw [definedNames, List.mem_toFinset, List.mem_filter]
  constructor
  · intro h
    apply h.2
  · intro h
    obtain ⟨a, ha⟩ := Option.isSome_iff_exists.1 h
    use mem_names_of_assembly? ha

/-- Every name with a parent is defined. -/
theorem mem_definedNames_of_parent? {name parent : String} (h : doc.parent? name = some parent) :
  name ∈ doc.definedNames
  := by
  obtain ⟨a, ha, -⟩ := Option.bind_eq_some_iff.1 h
  apply mem_definedNames.2
  rw [ha]
  rfl

/-! ### Ancestors -/

/-- The first step can be taken before the others. -/
theorem ancestor?_succ (name : String) (n : Nat) :
  doc.ancestor? name (n + 1) = (doc.parent? name).bind fun parent => doc.ancestor? parent n
  := by
  induction n with
  | zero =>
    rw [ancestor?, ancestor?]
    cases h : doc.parent? name with
    | none => simp [h]
    | some parent => simp [h, ancestor?]
  | succ n ih =>
    rw [ancestor?, ih, Option.bind_assoc]
    rfl

theorem ancestor?_succ_of_parent? {name parent : String} (h : doc.parent? name = some parent)
    (n : Nat) :
  doc.ancestor? name (n + 1) = doc.ancestor? parent n
  := by
  rw [ancestor?_succ, h]
  rfl

theorem ancestor?_succ_of_root {name : String} (h : doc.parent? name = none) (n : Nat) :
  doc.ancestor? name (n + 1) = none
  := by
  rw [ancestor?_succ, h]
  rfl

/-! ### Walks that end -/

namespace LeadsThrough

/-- A walk that ends runs through the ancestors in their order, and through no others. -/
theorem getElem?_eq_ancestor? {name : String} {path : List String}
    (h : doc.LeadsThrough name path) (n : Nat) :
  path[n]? = doc.ancestor? name n
  := by
  induction h generalizing n with
  | last h =>
    cases n with
    | zero => rfl
    | succ n => rw [ancestor?_succ_of_root h, List.getElem?_cons_succ, List.getElem?_nil]
  | step h _ ih =>
    cases n with
    | zero => rfl
    | succ n => rw [ancestor?_succ_of_parent? h, List.getElem?_cons_succ, ih]

/-- Every name of a walk but the last one has a parent, and so is defined. -/
theorem mem_definedNames {name other : String} {path : List String}
    (h : doc.LeadsThrough name path) (ho : other ∈ path.dropLast) :
  other ∈ doc.definedNames
  := by
  induction h with
  | last => cases ho
  | step h hp ih =>
    cases hp with
    | last =>
      cases List.mem_singleton.1 ho
      apply mem_definedNames_of_parent? h
    | step =>
      rw [List.dropLast_cons_cons] at ho
      rcases List.mem_cons.1 ho with rfl | ho
      · apply mem_definedNames_of_parent? h
      · apply ih ho

theorem ne_empty {name other : String} {path : List String} (h : doc.LeadsThrough name path)
    (hn : name ≠ "") (ho : other ∈ path) :
  other ≠ ""
  := by
  induction h with
  | last =>
    cases List.mem_singleton.1 ho
    apply hn
  | step h _ ih =>
    rcases List.mem_cons.1 ho with rfl | ho
    · apply hn
    · apply ih (parent?_ne_empty h) ho

/-- A walk is not longer than the defined names and one more. -/
theorem length_le {name : String} {path : List String} (h : doc.LeadsThrough name path) :
  path.length ≤ doc.definedNames.card + 1
  := by
  have hnodup : path.dropLast.Nodup := h.nodup.sublist (List.dropLast_sublist path)
  have hsubset : path.dropLast.toFinset ⊆ doc.definedNames := by
    intro other ho
    apply h.mem_definedNames (List.mem_toFinset.1 ho)
  have hcard := Finset.card_le_card hsubset
  rw [List.toFinset_card_of_nodup hnodup, List.length_dropLast] at hcard
  omega

end LeadsThrough

/-- A walk that some step of leads nowhere ends. -/
theorem exists_leadsThrough_of_ancestor? {name : String} {n : Nat}
    (h : doc.ancestor? name n = none) :
  ∃ path, doc.LeadsThrough name path
  := by
  induction n generalizing name with
  | zero => cases h
  | succ n ih =>
    cases hp : doc.parent? name with
    | none => use [name], .last hp
    | some parent =>
      rw [ancestor?_succ_of_parent? hp] at h
      obtain ⟨path, hl⟩ := ih h
      use name :: path, .step hp hl

/-! ### Walks that come back -/

/-- A walk that fails stops at the first name that it meets again.  The names met before are
those given and the ancestors of the current name; they are different. -/
theorem exists_of_walk_eq_error {start current : String} {visited : List String} {e : Error}
    (hv : visited.Nodup) (h : doc.walk start visited current = .error e) :
  ∃ path repeated, e = .cycle start repeated (visited ++ path ++ [repeated])
    ∧ (visited ++ path).Nodup ∧ repeated ∈ visited ++ path
    ∧ ∀ n ≤ path.length, (path ++ [repeated])[n]? = doc.ancestor? current n
  := by
  fun_induction doc.walk start visited current with
  | case1 visited current hm =>
    cases h
    refine ⟨[], current, ?_, ?_, ?_, ?_⟩
    · simp
    · simpa using hv
    · simpa using hm
    · intro n hn
      cases Nat.le_zero.1 hn
      rfl
  | case2 => cases h
  | case3 visited current hm parent hp ih =>
    have hv' : (visited ++ [current]).Nodup := by
      apply hv.append (List.nodup_singleton current)
      simpa using hm
    obtain ⟨path, repeated, he, hnodup, hmem, hpath⟩ := ih hv' h
    refine ⟨current :: path, repeated, ?_, ?_, ?_, ?_⟩
    · rw [he]
      simp
    · simpa using hnodup
    · simpa using hmem
    · intro n hn
      cases n with
      | zero => rfl
      | succ n =>
        rw [ancestor?_succ_of_parent? hp, List.cons_append, List.getElem?_cons_succ]
        apply hpath n (Nat.le_of_succ_le_succ hn)

/-! ### The chain -/

/-- The chain of a name lists a walk that ends, if there is one. -/
theorem chain_eq_ok_of_ancestor? {name : String} {n : Nat} (hs : doc.isStructured = true)
    (hn : name ≠ "") (h : doc.ancestor? name n = none) :
  ∃ path, doc.chain name = .ok path
  := by
  obtain ⟨path, hl⟩ := exists_leadsThrough_of_ancestor? h
  use path, (chain_eq_ok_iff hs hn).2 hl

/-- A chain fails with a cycle only: the walk up to the first name that it meets again. -/
theorem exists_of_chain_eq_error {name : String} {e : Error} (h : doc.chain name = .error e) :
  ∃ path repeated, e = .cycle name repeated (path ++ [repeated]) ∧ path.Nodup ∧ repeated ∈ path
    ∧ ∀ n ≤ path.length, (path ++ [repeated])[n]? = doc.ancestor? name n
  := by
  rw [chain] at h
  split at h
  · cases h
  · have hw := exists_of_walk_eq_error List.nodup_nil h
    simpa using hw

/-- The chain of a name succeeds exactly if some number of steps leads nowhere, and lists then
the ancestors up to the last one.  Otherwise it fails with the walk up to the first name that
is met a second time, whether or not the walk comes back to its start. -/
theorem chain_decides_walk {name : String} (hs : doc.isStructured = true) (hn : name ≠ "") :
  ((∃ path, doc.chain name = .ok path) ↔ ∃ n, doc.ancestor? name n = none)
    ∧ (∀ path, doc.chain name = .ok path →
      path.Nodup ∧ (∀ n, path[n]? = doc.ancestor? name n)
        ∧ (∀ other ∈ path.dropLast, other ∈ doc.definedNames)
        ∧ path.length ≤ doc.definedNames.card + 1)
    ∧ ((∀ n, doc.ancestor? name n ≠ none) →
      ∃ path repeated, doc.chain name = .error (.cycle name repeated (path ++ [repeated]))
        ∧ path.Nodup ∧ repeated ∈ path
        ∧ ∀ n ≤ path.length, (path ++ [repeated])[n]? = doc.ancestor? name n)
  := by
  have hlisted : ∀ path, doc.chain name = .ok path → ∀ n, path[n]? = doc.ancestor? name n := by
    intro path hc
    apply ((chain_eq_ok_iff hs hn).1 hc).getElem?_eq_ancestor?
  have hends : ∀ path, doc.chain name = .ok path → doc.ancestor? name path.length = none := by
    intro path hc
    rw [← hlisted path hc]
    apply List.getElem?_eq_none (Nat.le_refl _)
  refine ⟨⟨?_, ?_⟩, ?_, ?_⟩
  · rintro ⟨path, hc⟩
    use path.length, hends path hc
  · rintro ⟨n, h⟩
    apply chain_eq_ok_of_ancestor? hs hn h
  · intro path hc
    have hl := (chain_eq_ok_iff hs hn).1 hc
    use hl.nodup, hlisted path hc, fun other ho => hl.mem_definedNames ho, hl.length_le
  · intro hnever
    cases hc : doc.chain name with
    | ok path => exact absurd (hends path hc) (hnever _)
    | error e =>
      obtain ⟨path, repeated, rfl, hpath⟩ := exists_of_chain_eq_error hc
      exact ⟨path, repeated, rfl, hpath⟩

/-! ### A walk that misses its start -/

/-- A release with an assembly of a given basis and further fields. -/
def release (basis fields : List (String × Tree)) : Tree :=
  .mapping [("assembly", .mapping (("basis", .mapping basis) :: fields))]

/-- The assemblies `left` and `right` are built on each other, and `start` is built on one of
them, with an event that is no number and a group that cannot be ordered; `leaf` is built on a
name that is not defined. -/
def loopedReleases : ReleasesDocument where
  root := .mapping [("releases", .mapping [
    ("leaf", release [("assembly", .string "gone")] []),
    ("left", release [("assembly", .string "right")] []),
    ("right", release [("assembly", .string "left")] []),
    ("start", release [("assembly", .string "left"), ("brew_event", .string "soon")]
      [("group", .sequence [.string "one", .integer 2])])])]

example :
  loopedReleases.chain "start" = .error (.cycle "start" "left" ["start", "left", "right", "left"])
  := by cbv

/-- The walk from `start` never ends. -/
theorem ancestor?_loopedReleases (n : Nat) :
  loopedReleases.ancestor? "start" n ≠ none
  := by
  have hstart : loopedReleases.parent? "start" = some "left" := by decide
  have hleft : loopedReleases.parent? "left" = some "right" := by decide
  have hright : loopedReleases.parent? "right" = some "left" := by decide
  have hloop : ∀ m, loopedReleases.ancestor? "left" m ≠ none
      ∧ loopedReleases.ancestor? "right" m ≠ none := by
    intro m
    induction m with
    | zero => exact ⟨nofun, nofun⟩
    | succ m ih =>
      rw [ancestor?_succ_of_parent? hleft, ancestor?_succ_of_parent? hright]
      exact ih.symm
  cases n with
  | zero => nofun
  | succ n =>
    rw [ancestor?_succ_of_parent? hstart]
    apply (hloop n).1

theorem chain_decides_walk_loopedReleases :
  loopedReleases.isStructured = true ∧ "leaf" ≠ "" ∧ "start" ≠ ""
    ∧ (∃ path, loopedReleases.chain "leaf" = .ok path)
    ∧ ∃ path repeated,
      loopedReleases.chain "start" = .error (.cycle "start" repeated (path ++ [repeated]))
        ∧ path.Nodup ∧ repeated ∈ path
        ∧ ∀ n ≤ path.length, (path ++ [repeated])[n]? = loopedReleases.ancestor? "start" n
  := by
  refine ⟨rfl, by decide, by decide, ?_, ?_⟩
  · apply (chain_decides_walk rfl (by decide)).1.2
    use 2
    rfl
  · apply (chain_decides_walk rfl (by decide)).2.2
    apply ancestor?_loopedReleases

end LayeredConfig.ReleasesDocument
