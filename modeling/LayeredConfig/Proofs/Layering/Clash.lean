import LayeredConfig.Proofs.Layering.Path
import LayeredConfig.Proofs.Layering.Union
import Mathlib.Data.List.Lex

/-!
# Where merging fails

A list that starts with a string or a number is sorted, and has no place for an item of another
kind (`Fits`).  Merging two trees fails exactly if somewhere below plain keys that both of them
have, two sequences meet whose union holds such an item (`ClashesAt`).  Of several such places the
first one in the order of the keys is reported, with the first item of the union and the first one
that does not fit (`mergeOver_fails_iff`); what stands under marked keys or inside sequences is
not looked at.
-/

namespace LayeredConfig

/-- A key stands for no key after it. -/
theorem MergeKey.name_parse_ne_of_lt {raw key : String} (h : raw < key) :
  (parse raw).name ≠ key
  := by
  rintro rfl
  have hwritten := written_parse raw
  generalize parse raw = key at h hwritten
  obtain ⟨name, directive⟩ := key
  subst hwritten
  cases directive with
  | plain => exact String.lt_irrefl _ (written_plain name ▸ h)
  | override => exact String.lt_asymm h (lt_written_override name)
  | fallback =>
    exact String.lt_asymm h (String.lt_trans (lt_written_override name) (written_override_lt name))

namespace Tree

/-- Whether an item has a place in a list that starts with the given one: beside a string only
strings have, and beside a number only integers, floats and booleans. -/
def Fits (first x : Tree) : Prop :=
  match first with
  | .string _ => ∃ s, x = .string s
  | .integer _ | .float _ => (∃ i, x = .integer i) ∨ (∃ y, x = .float y) ∨ ∃ b, x = .bool b
  | _ => True

theorem fits_of_leadsOrder_eq_false {first : Tree} (h : first.leadsOrder = false) (x : Tree) :
  first.Fits x
  := by
  cases first <;> trivial

/-- Beside an item that decides that a list is sorted, those fit that can be compared with it. -/
theorem isSome_compareScalars?_iff {first x : Tree} (h : first.leadsOrder = true) :
  (first.compareScalars? x).isSome = true ↔ first.Fits x
  := by
  cases first with
  | string s => cases x <;> simp [Fits, compareScalars?, number?]
  | integer i => cases x <;> simp [Fits, compareScalars?, number?]
  | float y => cases x <;> simp [Fits, compareScalars?, number?]
  | _ => cases h

theorem isNone_compareScalars?_iff {first x : Tree} (h : first.leadsOrder = true) :
  (first.compareScalars? x).isNone = true ↔ ¬ first.Fits x
  := by
  rw [← isSome_compareScalars?_iff h, Bool.not_eq_true, Option.isSome_eq_false_iff]

end Tree

namespace Layering

variable {items : List Tree} {first offending : Tree}

/-- A list starts with one item, and another one is the first that does not fit it. -/
def Clash (items : List Tree) (first offending : Tree) : Prop :=
  (∃ rest, items = first :: rest) ∧ ∃ fitting rest, items = fitting ++ offending :: rest
    ∧ (∀ x ∈ fitting, first.Fits x) ∧ ¬ first.Fits offending

theorem clash_iff :
  Clash items first offending
    ↔ items.head? = some first ∧ first.leadsOrder = true
      ∧ items.find? (fun item => (first.compareScalars? item).isNone) = some offending
  := by
  constructor
  · rintro ⟨⟨rest, rfl⟩, fitting, later, hitems, hfits, hnot⟩
    have hlead : first.leadsOrder = true := by
      rw [← Bool.not_eq_false]
      intro h
      apply hnot (Tree.fits_of_leadsOrder_eq_false h offending)
    use rfl, hlead
    apply List.find?_eq_some_iff_append.2
    use (Tree.isNone_compareScalars?_iff hlead).2 hnot, fitting, later, hitems
    intro x hx
    rw [Option.not_isNone, Tree.isSome_compareScalars?_iff hlead]
    apply hfits x hx
  · rintro ⟨hhead, hlead, hfind⟩
    obtain ⟨hnot, fitting, later, hitems, hfits⟩ := List.find?_eq_some_iff_append.1 hfind
    use List.head?_eq_some_iff.1 hhead, fitting, later, hitems
    constructor
    · intro x hx
      rw [← Tree.isSome_compareScalars?_iff hlead, ← Option.not_isNone]
      apply hfits x hx
    · apply (Tree.isNone_compareScalars?_iff hlead).1 hnot

/-- A list has one place at most where it clashes. -/
theorem Clash.unique {first' offending' : Tree} (h : Clash items first offending)
    (h' : Clash items first' offending') :
  first = first' ∧ offending = offending'
  := by
  obtain ⟨hhead, -, hfind⟩ := clash_iff.1 h
  obtain ⟨hhead', -, hfind'⟩ := clash_iff.1 h'
  obtain rfl := Option.some.inj (hhead.symm.trans hhead')
  exact ⟨rfl, Option.some.inj (hfind.symm.trans hfind')⟩

/-- A list cannot be ordered exactly if it has an item that does not fit the first one. -/
theorem inOrder_eq_error_iff_clash {e : Error} :
  inOrder items = .error e
    ↔ ∃ first offending, Clash items first offending ∧ e = .unorderable first offending
  := by
  simp only [inOrder_eq_error_iff, clash_iff, and_assoc]

end Layering

namespace Tree

open Layering

/-! ### Failures of one entry -/

theorem layValue_eq_error_iff {below : Option Tree} {value : Tree} {directive : MergeDirective}
    {e : Error} :
  layValue below value directive = .error e
    ↔ directive = .plain ∧ ∃ existing, below = some existing ∧ value.mergeOver existing = .error e
  := by
  cases directive with
  | plain => cases below <;> simp [layValue, Except.map_eq_error_iff]
  | override => simp [layValue]
  | fallback => simp [layValue]

/-- The error with which an entry of an overlay fails to be laid over what the base has for it. -/
def failure? (base : Entries Tree) (entry : String × Tree) : Option Error :=
  match layEntry (base.find? (MergeKey.parse entry.1).name) entry with
  | .error e => some e
  | .ok _ => none

variable {overlay base : Entries Tree} {entry : String × Tree} {e : Error}

/-- An entry fails exactly if its key is plain, and its value cannot be merged over the one that
the base has under the key. -/
theorem failure?_eq_some_iff :
  failure? base entry = some e
    ↔ MergeKey.isMarked entry.1 = false
      ∧ ∃ existing, base.find? entry.1 = some existing ∧ entry.2.mergeOver existing = .error e
  := by
  have hlay : failure? base entry = some e
      ↔ layEntry (base.find? (MergeKey.parse entry.1).name) entry = .error e := by
    rw [failure?]
    split
    · next h => simp [h]
    · next h => simp [h]
  rw [hlay, layEntry, layValue_eq_error_iff]
  have hplain : (MergeKey.parse entry.1).directive = .plain ↔ MergeKey.isMarked entry.1 = false := by
    simp [MergeKey.isMarked]
  rw [hplain]
  apply and_congr_right
  intro hm
  rw [MergeKey.parse_plain_iff.2 hm]

/-- Where two bases have the same under the key of an entry, the entry fails with the same. -/
theorem failure?_congr {next : Entries Tree} (h : next.find? entry.1 = base.find? entry.1) :
  failure? next entry = failure? base entry
  := by
  ext e
  rw [failure?_eq_some_iff, failure?_eq_some_iff, h]

/-! ### Failures of mappings -/

/-- A merge of entries fails with the first of them that fails over the base.  When it comes to be
laid, the base still has what it had under its key, since the entries before it stand for other
names. -/
theorem mergeEntries_eq_error_iff (ho : overlay.Ascending) :
  mergeEntries overlay base = .error e ↔ overlay.findSome? (failure? base) = some e
  := by
  induction overlay generalizing base with
  | nil => simp [mergeEntries]
  | cons entry rest ih =>
    obtain ⟨hfirst, hrest⟩ := List.pairwise_cons.1 ho
    rw [List.findSome?_cons]
    rcases mergeEntries_cons entry base with ⟨err, hlay, hmerge⟩ | ⟨next, hlay, hother, hmerge⟩
    · rw [hmerge, failure?, hlay]
      simp
    · have hnext : ∀ later ∈ rest, failure? next later = failure? base later := by
        intro later hl
        apply failure?_congr
        apply hother _ (MergeKey.name_parse_ne_of_lt (hfirst later hl))
      rw [hmerge, ih hrest, failure?, hlay, ← List.head?_filterMap, List.filterMap_congr hnext,
        List.head?_filterMap]

/-! ### Places where merging fails -/

variable {top base : Tree} {path : List String} {first offending : Tree}

/-- Both trees have all keys of a path, none of them marked, and at its end sequences whose union
clashes. -/
def ClashesAt (top base : Tree) (path : List String) (first offending : Tree) : Prop :=
  (∀ key ∈ path, MergeKey.isMarked key = false) ∧ ∃ overlay below : List Tree,
    top.lookup path = some (.sequence overlay) ∧ base.lookup path = some (.sequence below)
    ∧ Clash (below ++ added overlay below) first offending

theorem clashesAt_nil_iff :
  ClashesAt top base [] first offending
    ↔ ∃ overlay below : List Tree, top = .sequence overlay ∧ base = .sequence below
      ∧ Clash (below ++ added overlay below) first offending
  := by
  simp [ClashesAt, lookup]

theorem clashesAt_cons_iff {key : String} :
  ClashesAt top base (key :: path) first offending
    ↔ MergeKey.isMarked key = false ∧ ∃ child below, top.get? key = some child
      ∧ base.get? key = some below ∧ ClashesAt child below path first offending
  := by
  simp only [ClashesAt, lookup, List.forall_mem_cons, Option.bind_eq_some_iff]
  constructor
  · rintro ⟨⟨hkey, hpath⟩, overlay, below, ⟨child, hchild, ho⟩, ⟨lower, hlower, hb⟩, hclash⟩
    exact ⟨hkey, child, lower, hchild, hlower, hpath, overlay, below, ho, hb, hclash⟩
  · rintro ⟨hkey, child, lower, hchild, hlower, hpath, overlay, below, ho, hb, hclash⟩
    exact ⟨⟨hkey, hpath⟩, overlay, below, ⟨child, hchild, ho⟩, ⟨lower, hlower, hb⟩, hclash⟩

theorem mergeOver_sequence_eq_error_iff {overlay below : List Tree} :
  (sequence overlay).mergeOver (.sequence below) = .error e
    ↔ ∃ first offending, Clash (below ++ added overlay below) first offending
      ∧ e = .unorderable first offending
  := by
  rw [mergeOver, Except.map_eq_error_iff, inOrder_eq_error_iff_clash, union_eq_append_added]

theorem mergeOver_mapping_eq_error_iff {overlay below : Entries Tree} (ho : overlay.Ascending) :
  (mapping overlay).mergeOver (.mapping below) = .error e
    ↔ overlay.findSome? (failure? below) = some e
  := by
  rw [mergeOver, Except.map_eq_error_iff, mergeEntries_eq_error_iff ho]

/-- Merging fails if there is a place where the trees clash. -/
theorem exists_error_of_clashesAt (ho : top.Ordered)
    (h : ClashesAt top base path first offending) :
  ∃ e, top.mergeOver base = .error e
  := by
  induction path generalizing top base with
  | nil =>
    obtain ⟨overlay, below, rfl, rfl, hclash⟩ := clashesAt_nil_iff.1 h
    use .unorderable first offending
    apply mergeOver_sequence_eq_error_iff.2 ⟨first, offending, hclash, rfl⟩
  | cons key path ih =>
    obtain ⟨hkey, child, lower, hchild, hlower, hclash⟩ := clashesAt_cons_iff.1 h
    obtain ⟨e, he⟩ := ih (ho.get? hchild) hclash
    obtain ⟨overlay, rfl⟩ := exists_mapping_of_get? hchild
    obtain ⟨below, rfl⟩ := exists_mapping_of_get? hlower
    have hfailure : failure? below (key, child) = some e :=
      failure?_eq_some_iff.2 ⟨hkey, lower, hlower, he⟩
    simp only [mergeOver_mapping_eq_error_iff (ordered_mapping_iff.1 ho).1]
    rw [← Option.isSome_iff_exists, List.findSome?_isSome_iff]
    use (key, child), Entries.mem_of_find? hchild
    rw [hfailure]
    rfl

/-! ### The first place -/

/-- A path is met before another one: it has the smaller key where they part. -/
def Before : List String → List String → Prop := List.Lex fun a b => a < b

theorem eq_of_not_before {p q : List String} (hpq : ¬ Before p q) (hqp : ¬ Before q p) :
  p = q
  := by
  have hkeys : Std.Trichotomous fun a b : String => a < b := by
    constructor
    intro a b hab hba
    exact Decidable.byContradiction fun hne => hba (Entries.lt_of_not_lt_of_ne hab hne)
  exact (List.Lex.trichotomous fun a b : String => a < b).trichotomous p q hpq hqp

/-- The trees clash at the end of a path, and of no path before it. -/
def ClashesFirst (top base : Tree) (path : List String) (first offending : Tree) : Prop :=
  ClashesAt top base path first offending ∧ ∀ path' first' offending',
    ClashesAt top base path' first' offending' → ¬ Before path' path

/-- The first place of mappings lies in the first entry that fails, and is the first one there. -/
theorem ClashesFirst.cons {lower upper below : Entries Tree} {key : String} {value existing : Tree}
    (ho : (mapping (lower ++ (key, value) :: upper)).Ordered)
    (hkey : MergeKey.isMarked key = false) (hbelow : below.find? key = some existing)
    (hlower : ∀ entry ∈ lower, failure? below entry = none)
    (h : ClashesFirst value existing path first offending) :
  ClashesFirst (.mapping (lower ++ (key, value) :: upper)) (.mapping below) (key :: path) first
    offending
  := by
  have hascending := (ordered_mapping_iff.1 ho).1
  have hvalue : Entries.find? key (lower ++ (key, value) :: upper) = some value :=
    hascending.find?_of_mem (List.mem_append_right _ List.mem_cons_self)
  obtain ⟨hclash, hfirst⟩ := h
  use clashesAt_cons_iff.2 ⟨hkey, value, existing, hvalue, hbelow, hclash⟩
  intro path' first' offending' hclash' hbefore
  cases path' with
  | nil =>
    obtain ⟨_, _, hsequence, -⟩ := clashesAt_nil_iff.1 hclash'
    cases hsequence
  | cons key' path' =>
    obtain ⟨hkey', child, other, hchild, hother, hclash'⟩ := clashesAt_cons_iff.1 hclash'
    cases hbefore with
    | cons hbefore =>
      obtain rfl := Option.some.inj (hvalue.symm.trans hchild)
      obtain rfl := Option.some.inj (hbelow.symm.trans hother)
      apply hfirst path' first' offending' hclash' hbefore
    | rel hlt =>
      have hmem : (key', child) ∈ lower := by
        have hupper := (List.pairwise_append.1 hascending).2.1
        rcases List.mem_append.1 (Entries.mem_of_find? hchild) with hm | hm
        · exact hm
        · rcases List.mem_cons.1 hm with heq | hm
          · cases heq
            exact absurd hlt (String.lt_irrefl _)
          · exact absurd hlt (String.lt_asymm ((List.pairwise_cons.1 hupper).1 _ hm))
      obtain ⟨e, he⟩ := exists_error_of_clashesAt (ho.get? hchild) hclash'
      have hfailure : failure? below (key', child) = some e :=
        failure?_eq_some_iff.2 ⟨hkey', other, hother, he⟩
      cases (hlower _ hmem).symm.trans hfailure

/-- Merging fails with the first place where the trees clash. -/
theorem exists_clashesFirst_of_eq_error (ho : top.Ordered) (h : top.mergeOver base = .error e) :
  ∃ path first offending, ClashesFirst top base path first offending
    ∧ e = .unorderable first offending
  := by
  induction top using Tree.induction generalizing base e with
  | sequence overlay =>
    cases base with
    | sequence below =>
      obtain ⟨first, offending, hclash, rfl⟩ := mergeOver_sequence_eq_error_iff.1 h
      use [], first, offending
      refine ⟨⟨clashesAt_nil_iff.2 ⟨overlay, below, rfl, rfl, hclash⟩, ?_⟩, rfl⟩
      rintro _ _ _ - ⟨⟩
    | _ => cases h
  | mapping overlay ih =>
    cases base with
    | mapping below =>
      rw [mergeOver_mapping_eq_error_iff (ordered_mapping_iff.1 ho).1] at h
      obtain ⟨lower, ⟨key, value⟩, upper, rfl, hfailure, hlower⟩ := List.findSome?_eq_some_iff.1 h
      obtain ⟨hkey, existing, hbelow, he⟩ := failure?_eq_some_iff.1 hfailure
      have hmem : (key, value) ∈ lower ++ (key, value) :: upper :=
        List.mem_append_right _ List.mem_cons_self
      obtain ⟨path, first, offending, hfirst, rfl⟩ :=
        ih _ hmem ((ordered_mapping_iff.1 ho).2 _ hmem) he
      use key :: path, first, offending, hfirst.cons ho hkey hbelow hlower
    | _ => cases h
  | _ => cases h

/-- There is one first place at most. -/
theorem ClashesFirst.unique {path' : List String} {first' offending' : Tree}
    (h : ClashesFirst top base path first offending)
    (h' : ClashesFirst top base path' first' offending') :
  first = first' ∧ offending = offending'
  := by
  obtain rfl := eq_of_not_before (h'.2 _ _ _ h.1) (h.2 _ _ _ h'.1)
  obtain ⟨⟨-, overlay, below, ho, hb, hclash⟩, -⟩ := h
  obtain ⟨⟨-, overlay', below', ho', hb', hclash'⟩, -⟩ := h'
  cases ho.symm.trans ho'
  cases hb.symm.trans hb'
  apply hclash.unique hclash'

/-- Merging fails exactly if the two trees clash somewhere, and then with the two items of the first
place where they do. -/
theorem mergeOver_fails_iff (ho : top.Ordered) (base : Tree) :
  ((∃ e, top.mergeOver base = .error e)
      ↔ ∃ path first offending, ClashesAt top base path first offending)
    ∧ ∀ e, top.mergeOver base = .error e
      ↔ ∃ path first offending, ClashesFirst top base path first offending
        ∧ e = .unorderable first offending
  := by
  constructor
  · constructor
    · rintro ⟨e, he⟩
      obtain ⟨path, first, offending, hfirst, -⟩ := exists_clashesFirst_of_eq_error ho he
      exact ⟨path, first, offending, hfirst.1⟩
    · rintro ⟨path, first, offending, hclash⟩
      apply exists_error_of_clashesAt ho hclash
  · intro e
    constructor
    · exact exists_clashesFirst_of_eq_error ho
    · rintro ⟨path, first, offending, hfirst, rfl⟩
      obtain ⟨e, he⟩ := exists_error_of_clashesAt ho hfirst.1
      obtain ⟨path', first', offending', hfirst', rfl⟩ := exists_clashesFirst_of_eq_error ho he
      obtain ⟨rfl, rfl⟩ := hfirst.unique hfirst'
      exact he

/-- An overlay that overrides one of its own keys, and has lists under keys of all kinds. -/
def quarrelsomeOverlay : Tree :=
  .mapping [("arches", .sequence [.string "s390x"]), ("arches!", .null),
    ("ids!", .sequence [.bool true]), ("vars", .mapping [("minor", .sequence [.null])])]

/-- A base with lists of numbers and of strings. -/
def numberedBase : Tree :=
  .mapping [("arches", .sequence [.integer 7, .bool false]), ("ids", .sequence [.string "x"]),
    ("vars", .mapping [("minor", .sequence [.string "x"])])]

/-- The lists under `arches` clash, although the overlay overrides this key, and so do those below
`vars`; the first ones are reported.  Those under `ids` are never united. -/
theorem mergeOver_quarrelsomeOverlay :
  (∃ e, quarrelsomeOverlay.mergeOver numberedBase = .error e)
    ∧ quarrelsomeOverlay.mergeOver numberedBase = .error (.unorderable (.integer 7) (.string "s390x"))
    ∧ ∃ path first offending, ClashesFirst quarrelsomeOverlay numberedBase path first offending
      ∧ Error.unorderable (.integer 7) (.string "s390x") = .unorderable first offending
  := by
  have ho : quarrelsomeOverlay.Ordered := by decide +kernel
  have hclash : ClashesAt quarrelsomeOverlay numberedBase ["vars", "minor"] (.string "x") .null := by
    refine ⟨by decide, _, _, rfl, rfl, ⟨[.null], rfl⟩, [.string "x"], [], rfl, ?_, ?_⟩
    · exact List.forall_mem_singleton.2 ⟨"x", rfl⟩
    · rintro ⟨s, hs⟩
      cases hs
  have herror : quarrelsomeOverlay.mergeOver numberedBase
      = .error (.unorderable (.integer 7) (.string "s390x")) := by rfl
  obtain ⟨hfails, hfirst⟩ := mergeOver_fails_iff ho numberedBase
  exact ⟨hfails.2 ⟨_, _, _, hclash⟩, herror, (hfirst _).1 herror⟩

end Tree

end LayeredConfig
