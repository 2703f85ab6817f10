import LayeredConfig.Proofs.Exchange.Decoding
import Mathlib.Tactic.Tauto

/-!
# YAML values without a tree

A YAML value has a tree exactly if it is plain: none of its nodes stands under a tag, and every key
of a mapping is a string (`Yaml.IsPlain`).  `Yaml.violations` lists what is not accepted in document
order, the key of an entry before its value; the first of these is the reason why there is no tree,
and it is never a number (`Yaml.ofYaml_reports_first_violation`).  A tree mirrors the value that it
is of: the items of a sequence keep their order, and the entries of a mapping come in the order of
their keys, with none of them lost (`Yaml.MirroredBy`).
-/

/-- The failure of a computation, if it fails. -/
def Except.failure? {ε α : Type} : Except ε α → Option ε
  | .ok _ => none
  | .error e => some e

section

variable {ε α β : Type} {x : Except ε α}

theorem Except.failure?_eq_some_iff {e : ε} :
  x.failure? = some e ↔ x = .error e
  := by
  cases x <;> simp [failure?]

theorem Except.failure?_eq_none_iff :
  x.failure? = none ↔ ∃ a, x = .ok a
  := by
  cases x <;> simp [failure?]

theorem Except.failure?_map (f : α → β) (x : Except ε α) :
  (x.map f).failure? = x.failure?
  := by
  cases x <;> rfl

end

namespace LayeredConfig

namespace Yaml

/-! ### Plain values -/

/-- No node of a value stands under a tag, and every key of a mapping in it is a string. -/
structure IsPlain (y : Yaml) : Prop where
  untagged : ∀ node : Yaml, node.IsPart y → ∀ tag value, node ≠ .tagged tag value
  keys : ∀ node : Yaml, node.IsPart y → ∀ entries, node = .mapping entries →
    ∀ e ∈ entries, ∃ key, e.1 = .string key

/-- A value is plain if it is not under a tag, has strings as keys and has plain values below
it. -/
theorem isPlain_iff {y : Yaml} :
  y.IsPlain
    ↔ (∀ tag value, y ≠ .tagged tag value)
      ∧ (∀ entries, y = .mapping entries → ∀ e ∈ entries, ∃ key, e.1 = .string key)
      ∧ ∀ child ∈ y.children, child.IsPlain
  := by
  constructor
  · rintro ⟨huntagged, hkeys⟩
    rw [forall_isPart_iff] at huntagged hkeys
    exact ⟨huntagged.1, hkeys.1, fun child hc => ⟨huntagged.2 child hc, hkeys.2 child hc⟩⟩
  · rintro ⟨huntagged, hkeys, hchildren⟩
    constructor
    · apply forall_isPart_iff.2 ⟨huntagged, fun child hc => (hchildren child hc).untagged⟩
    · apply forall_isPart_iff.2 ⟨hkeys, fun child hc => (hchildren child hc).keys⟩

theorem isPlain_string (s : String) :
  (Yaml.string s).IsPlain
  := isPlain_iff.2 ⟨nofun, nofun, List.forall_mem_nil _⟩

theorem isPlain_sequence_iff {items : List Yaml} :
  (Yaml.sequence items).IsPlain ↔ ∀ y ∈ items, y.IsPlain
  := by
  rw [isPlain_iff]
  constructor
  · rintro ⟨-, -, hitems⟩
    apply hitems
  · intro hitems
    exact ⟨nofun, nofun, hitems⟩

theorem isPlain_mapping_iff {entries : List (Yaml × Yaml)} :
  (Yaml.mapping entries).IsPlain
    ↔ ∀ e ∈ entries, (∃ key, e.1 = .string key) ∧ e.2.IsPlain
  := by
  rw [isPlain_iff]
  constructor
  · rintro ⟨-, hkeys, hchildren⟩ e he
    use hkeys entries rfl e he
    apply hchildren
    apply List.mem_flatMap.2 ⟨e, he, by simp⟩
  · intro h
    refine ⟨nofun, ?_, ?_⟩
    · rintro _ ⟨⟩ e he
      apply (h e he).1
    · intro child hc
      obtain ⟨e, he, hchild⟩ := List.mem_flatMap.1 hc
      obtain ⟨⟨key, hkey⟩, hvalue⟩ := h e he
      rcases List.mem_pair.1 hchild with rfl | rfl
      · rw [hkey]
        apply isPlain_string
      · apply hvalue

theorem not_isPlain_tagged {tag : String} {value : Yaml} :
  ¬ (Yaml.tagged tag value).IsPlain
  := fun h => h.untagged _ .refl tag value rfl

/-! ### Violations in document order -/

/-- What is not accepted about a key: that it is not a string. -/
def keyViolations : Yaml → List YamlRejection
  | .string _ => []
  | key => [.nonStringKey key]

mutual

/-- All that is not accepted in a value, in document order.  What stands under a tag, or in a key
that is not a string, is not looked at. -/
def violations : Yaml → List YamlRejection
  | .sequence items => itemViolations items
  | .mapping entries => entryViolations entries
  | .tagged tag _ => [.tagged tag]
  | _ => []

/-- All that is not accepted in the items of a sequence. -/
def itemViolations : List Yaml → List YamlRejection
  | [] => []
  | y :: rest => y.violations ++ itemViolations rest

/-- All that is not accepted in the entries of a mapping; each key comes before its value. -/
def entryViolations : List (Yaml × Yaml) → List YamlRejection
  | [] => []
  | (key, value) :: rest => keyViolations key ++ value.violations ++ entryViolations rest

end

theorem itemViolations_eq_flatMap (items : List Yaml) :
  itemViolations items = items.flatMap violations
  := by
  induction items with
  | nil => rfl
  | cons y rest ih => rw [itemViolations, ih, List.flatMap_cons]

theorem entryViolations_eq_flatMap (entries : List (Yaml × Yaml)) :
  entryViolations entries = entries.flatMap fun e => keyViolations e.1 ++ e.2.violations
  := by
  induction entries with
  | nil => rfl
  | cons e rest ih => rw [entryViolations, ih, List.flatMap_cons]

theorem keyViolations_eq_nil_iff {key : Yaml} :
  keyViolations key = [] ↔ ∃ k, key = .string k
  := by
  cases key <;> simp [keyViolations]

/-- A value is plain if there is nothing in it that is not accepted. -/
theorem violations_eq_nil_iff {y : Yaml} :
  y.violations = [] ↔ y.IsPlain
  := by
  induction y using Yaml.induction with
  | sequence items ih =>
    rw [isPlain_sequence_iff, violations, itemViolations_eq_flatMap, List.flatMap_eq_nil_iff]
    apply forall₂_congr ih
  | mapping entries ih =>
    rw [isPlain_mapping_iff, violations, entryViolations_eq_flatMap, List.flatMap_eq_nil_iff]
    apply forall₂_congr
    intro e he
    rw [List.append_eq_nil_iff, keyViolations_eq_nil_iff, (ih e he).2]
  | tagged tag value _ => simp [violations, not_isPlain_tagged]
  | _ =>
    simp only [violations, true_iff]
    exact isPlain_iff.2 ⟨nofun, nofun, List.forall_mem_nil _⟩

/-- Numbers are accepted. -/
theorem number_notMem_violations (y number : Yaml) :
  YamlRejection.number number ∉ y.violations
  := by
  induction y using Yaml.induction with
  | sequence items ih =>
    rw [violations, itemViolations_eq_flatMap]
    simpa using ih
  | mapping entries ih =>
    have hkey : ∀ key, YamlRejection.number number ∉ keyViolations key := by
      intro key
      cases key <;> simp [keyViolations]
    rw [violations, entryViolations_eq_flatMap]
    intro h
    obtain ⟨e, he, h⟩ := List.mem_flatMap.1 h
    rcases List.mem_append.1 h with h | h
    · apply hkey e.1 h
    · apply (ih e he).2 h
  | _ => simp [violations]

/-! ### The first violation -/

mutual

/-- Reading fails with the first violation, and succeeds if there is none. -/
theorem failure?_ofYaml : (y : Yaml) → (Tree.ofYaml y).failure? = y.violations.head?
  | .null | .bool _ | .float _ | .string _ | .tagged _ _ => rfl
  | .integer i => by
    rw [Tree.ofYaml, Tree.ofYamlNumber_integer]
    rfl
  | .sequence items => by
    rw [Tree.ofYaml, Except.failure?_map, failure?_ofYamlItems items, violations]
  | .mapping entries => by
    rw [Tree.ofYaml, Except.failure?_map, failure?_ofYamlEntries entries, violations]

theorem failure?_ofYamlItems :
    (items : List Yaml) → (Tree.ofYamlItems items).failure? = (itemViolations items).head?
  | [] => rfl
  | y :: rest => by
    have hy := failure?_ofYaml y
    rw [itemViolations, List.head?_append, ← hy, ← failure?_ofYamlItems rest, Tree.ofYamlItems]
    cases Tree.ofYaml y with
    | error e => rfl
    | ok t => apply Except.failure?_map

theorem failure?_ofYamlEntries : (entries : List (Yaml × Yaml)) → (read : Entries Tree) →
    (Tree.ofYamlEntries entries read).failure? = (entryViolations entries).head?
  | [], _ => rfl
  | (key, value) :: rest, read => by
    have hvalue := failure?_ofYaml value
    rw [entryViolations, List.append_assoc, List.head?_append, List.head?_append, ← hvalue]
    cases key with
    | string k =>
      rw [Tree.ofYamlEntries]
      cases Tree.ofYaml value with
      | error e => rfl
      | ok t => apply failure?_ofYamlEntries rest (read.insert k t)
    | _ => rfl

end

/-! ### Trees that mirror values -/

/-- A tree mirrors a value: it has the same shape, and the entries of a mapping in the order of
their keys.  An integer beyond the signed words is mirrored by the nearest float. -/
inductive MirroredBy : Yaml → Tree → Prop
  | null : MirroredBy .null .null
  | bool (b : Bool) : MirroredBy (.bool b) (.bool b)
  | word {i : WordInteger} {w : Int64} (h : w.toInt = i.val) : MirroredBy (.integer i) (.integer w)
  | beyond {i : WordInteger} {x : Binary64} (h : 2 ^ 63 ≤ i.val) (nearest : x.IsNearest i.val) :
    MirroredBy (.integer i) (.float x)
  | float (x : Binary64) : MirroredBy (.float x) (.float x)
  | string (s : String) : MirroredBy (.string s) (.string s)
  | sequence {nodes : List Yaml} {items : List Tree} (h : List.Forall₂ MirroredBy nodes items) :
    MirroredBy (.sequence nodes) (.sequence items)
  | mapping {nodes sorted : List (Yaml × Yaml)} {entries : Entries Tree} (hp : nodes.Perm sorted)
    (keys : sorted.map (·.1) = entries.map fun e => .string e.1)
    (values : List.Forall₂ MirroredBy (sorted.map (·.2)) (entries.map (·.2)))
    (ascending : entries.Ascending) : MirroredBy (.mapping nodes) (.mapping entries)

theorem mirroredBy_ofWordInteger (i : WordInteger) :
  (Yaml.integer i).MirroredBy (Tree.ofWordInteger i)
  := by
  by_cases h : i.val < 2 ^ 63
  · obtain ⟨w, hw, hvalue⟩ := Json.ofJson_integer_of_lt h
    rw [Tree.ofJson] at hw
    rw [hw]
    exact .word hvalue
  · obtain ⟨x, hx, hnearest⟩ := Json.ofJson_integer_of_not_lt h
    rw [Tree.ofJson] at hx
    rw [hx]
    exact .beyond (Int.not_lt.1 h) hnearest

theorem forall₂_of_ofYamlItems {nodes : List Yaml} {items : List Tree}
    (h : Tree.ofYamlItems nodes = .ok items) :
  List.Forall₂ (fun y t => Tree.ofYaml y = .ok t) nodes items
  := by
  induction nodes generalizing items with
  | nil =>
    cases h
    exact .nil
  | cons y rest ih =>
    obtain ⟨t, ht, more, hmore, rfl⟩ := Tree.ofYamlItems_cons_eq_ok_iff.1 h
    exact .cons ht (ih hmore)

theorem distinctItems_iff {items : List Yaml} :
  distinctItems items = true ↔ ∀ y ∈ items, y.hasDistinctKeys = true
  := by
  induction items with
  | nil => simp [distinctItems]
  | cons y rest ih => simp [distinctItems, ih]

theorem distinctEntries_iff {entries : List (Yaml × Yaml)} :
  distinctEntries entries = true
    ↔ (∀ e ∈ entries, e.1.hasDistinctKeys = true ∧ e.2.hasDistinctKeys = true)
      ∧ entries.Pairwise fun a b => same a.1 b.1 = false
  := by
  induction entries with
  | nil => simp [distinctEntries]
  | cons e rest ih =>
    simp only [distinctEntries, Bool.and_eq_true, Bool.not_eq_true', List.any_eq_false,
      Bool.not_eq_true, ih, List.forall_mem_cons, List.pairwise_cons]
    tauto

theorem map_fst_of_forall₂_isEntry {nodes : List (Yaml × Yaml)} {entries : Entries Tree}
    (h : List.Forall₂ Tree.IsEntry nodes entries) :
  nodes.map (·.1) = entries.map fun e => .string e.1
  := by
  induction h with
  | nil => rfl
  | cons hentry _ ih => rw [List.map_cons, List.map_cons, hentry.1, ih]

/-- Nodes with different keys are read as entries with different keys. -/
theorem nodup_keys_of_forall₂_isEntry {nodes : List (Yaml × Yaml)} {entries : Entries Tree}
    (hd : nodes.Pairwise fun a b => same a.1 b.1 = false)
    (h : List.Forall₂ Tree.IsEntry nodes entries) :
  entries.keys.Nodup
  := by
  have hkeys : (nodes.map (·.1)).Pairwise fun k l => same k l = false := List.pairwise_map.2 hd
  rw [map_fst_of_forall₂_isEntry h, List.pairwise_map] at hkeys
  apply List.pairwise_map.2
  apply hkeys.imp
  intro a b hab heq
  simp [same, heq] at hab

/-- The tree that is read mirrors the value, if no key is repeated in it. -/
theorem mirroredBy_of_ofYaml {y : Yaml} {t : Tree} (hd : y.hasDistinctKeys = true)
    (h : Tree.ofYaml y = .ok t) :
  y.MirroredBy t
  := by
  induction y using Yaml.induction generalizing t with
  | integer i =>
    rw [Tree.ofYaml, Tree.ofYamlNumber_integer] at h
    cases h
    apply mirroredBy_ofWordInteger
  | sequence nodes ih =>
    obtain ⟨items, hitems, rfl⟩ := Except.map_eq_ok_iff.1 h
    rw [hasDistinctKeys, distinctItems_iff] at hd
    have hread := (List.forall₂_and_left _ _).2 ⟨fun _ h => h, forall₂_of_ofYamlItems hitems⟩
    apply MirroredBy.sequence
    apply hread.imp
    rintro y t ⟨hy, ht⟩
    apply ih y hy (hd y hy) ht
  | mapping nodes ih =>
    obtain ⟨entries, hentries, rfl⟩ := Except.map_eq_ok_iff.1 h
    rw [hasDistinctKeys, distinctEntries_iff] at hd
    obtain ⟨hdistinct, hkeys⟩ := hd
    obtain ⟨read, hread, hput⟩ := Tree.ofYamlEntries_eq_ok_iff_forall₂.1 hentries
    have hput : Entries.ofList read = entries := hput
    have hperm := Entries.perm_ofList (nodup_keys_of_forall₂_isEntry hkeys hread)
    rw [hput] at hperm
    -- the nodes in the order of the entries that they are read as
    obtain ⟨sorted, hsorted, hnodes⟩ := List.perm_comp_forall₂ hperm hread.flip
    refine .mapping hnodes.symm (map_fst_of_forall₂_isEntry hsorted.flip) ?_ ?_
    · rw [List.forall₂_map_left_iff, List.forall₂_map_right_iff]
      have hmembers := (List.forall₂_and_left _ _).2 ⟨fun _ h => h, hsorted.flip⟩
      apply hmembers.imp
      rintro node entry ⟨hnode, hentry⟩
      have hm : node ∈ nodes := hnodes.mem_iff.1 hnode
      apply (ih node hm).2 (hdistinct node hm).2 hentry.2
    · rw [← hput]
      apply Entries.ascending_ofList
  | tagged tag value _ => cases h
  | _ =>
    cases h
    constructor

/-- A value has a tree exactly if it is plain.  It has none because of the first violation in
document order, which is never a number.  The tree mirrors the value, if no key is repeated in
it. -/
theorem ofYaml_reports_first_violation (y : Yaml) :
  ((∃ t, Tree.ofYaml y = .ok t) ↔ y.IsPlain)
    ∧ (∀ r, Tree.ofYaml y = .error r ↔ y.violations.head? = some r)
    ∧ (∀ number, Tree.ofYaml y ≠ .error (.number number))
    ∧ (y.hasDistinctKeys = true → ∀ t, Tree.ofYaml y = .ok t → y.MirroredBy t)
  := by
  have hread := failure?_ofYaml y
  refine ⟨?_, ?_, ?_, fun hd _ => mirroredBy_of_ofYaml hd⟩
  · rw [← Except.failure?_eq_none_iff, hread, List.head?_eq_none_iff, violations_eq_nil_iff]
  · intro r
    rw [← Except.failure?_eq_some_iff, hread]
  · intro number h
    rw [← Except.failure?_eq_some_iff, hread] at h
    apply number_notMem_violations y number (List.mem_of_head? h)

/-- A mapping with its keys in descending order, and a word that is not a signed one. -/
def descendingNode : Yaml :=
  .mapping [(.string "others", .sequence [.integer (.ofInt64 (-1)), .null]),
    (.string "greatest", .integer (.ofUInt64 18446744073709551615))]

/-- A sequence with a tag behind a key that is not accepted, which has a tag itself. -/
def taggedNode : Yaml :=
  .sequence [descendingNode, .mapping [(.string "first", .null),
    (.tagged "key" (.string "second"), .tagged "value" .null)], .tagged "third" .null]

/-- The entries are put in the order of their keys; and the key comes before the tags. -/
theorem ofYaml_reports_first_violation_taggedNode :
  descendingNode.hasDistinctKeys = true
    ∧ descendingNode.MirroredBy (.mapping [("greatest", .float (.finite false 1087 0)),
      ("others", .sequence [.integer (-1), .null])])
    ∧ Tree.ofYaml taggedNode = .error (.nonStringKey (.tagged "key" (.string "second")))
  := by
  have hdistinct : descendingNode.hasDistinctKeys = true := by decide +kernel
  refine ⟨hdistinct, ?_, ?_⟩
  · have hfloat : Binary64.ofInt 18446744073709551615 = .finite false 1087 0 := by decide +kernel
    rw [← hfloat]
    apply (ofYaml_reports_first_violation descendingNode).2.2.2 hdistinct
    rfl
  · apply ((ofYaml_reports_first_violation taggedNode).2.1 _).2
    rfl

end Yaml

end LayeredConfig
