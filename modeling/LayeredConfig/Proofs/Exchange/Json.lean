import LayeredConfig.Tree.Json
import Mathlib.Algebra.Group.Int.Defs
import Mathlib.Tactic.Use

/-!
# JSON values and trees as data

The entries of a mapping are put in one after the other, which gives the entries themselves if
they ascend.  Hence the datum of an ordered JSON value is read as the tree of the value
(`Json.ofDatum_toDatum`), and the datum of an ordered tree becomes the JSON value of the tree
(`Tree.ofDatum?_toDatum`).
-/

namespace LayeredConfig

/-! ### Integers that fit a word -/

namespace Tree

theorem ofWordInteger_of_lt {i : WordInteger} (h : i.val < 2 ^ 63) :
  ofWordInteger i = .integer (.ofInt i.val)
  := by
  have hword : i.toInt64? = some (.ofInt i.val) := if_pos (Int.le_of_lt_add_one h)
  rw [ofWordInteger, hword]

theorem ofWordInteger_of_not_lt {i : WordInteger} (h : ¬i.val < 2 ^ 63) :
  ofWordInteger i = .float (.ofInt i.val)
  := by
  have hword : i.toInt64? = none := if_neg fun hle => h (Int.lt_add_one_of_le hle)
  rw [ofWordInteger, hword]

end Tree

/-! ### Reading JSON values -/

namespace Json

theorem ofDatum_integerDatum (i : WordInteger) :
  Tree.ofDatum (integerDatum i) = .ok (Tree.ofWordInteger i)
  := by
  rw [integerDatum]
  split
  · next h =>
    rw [Tree.ofDatum, Tree.ofWordInteger_of_lt (Int.lt_trans h (by decide))]
  · next h => rw [Tree.ofDatum, WordInteger.ofUInt64_ofNat h]

theorem ofDatumItems_toDatumItems {items : List Json}
    (h : ∀ j ∈ items, Tree.ofDatum j.toDatum = .ok (Tree.ofJson j)) :
  Tree.ofDatumItems (toDatumItems items) = .ok (items.map Tree.ofJson)
  := by
  induction items with
  | nil => rfl
  | cons j rest ih =>
    obtain ⟨hj, hrest⟩ := List.forall_mem_cons.1 h
    rw [toDatumItems, Tree.ofDatumItems, hj]
    simp only [ih hrest]
    rfl

theorem ofDatumEntries_toDatumMembers {members : List (String × Json)} {read : Entries Tree}
    (h : ∀ e ∈ members, Tree.ofDatum e.2.toDatum = .ok (Tree.ofJson e.2)) :
  Tree.ofDatumEntries (toDatumMembers members) read
    = .ok ((members.map fun e => (e.1, Tree.ofJson e.2)).foldl
        (fun acc e => acc.insert e.1 e.2) read)
  := by
  induction members generalizing read with
  | nil => rfl
  | cons e rest ih =>
    obtain ⟨key, j⟩ := e
    obtain ⟨hj, hrest⟩ := List.forall_mem_cons.1 h
    rw [toDatumMembers, Tree.ofDatumEntries, Tree.ofDatum]
    simp only [hj]
    apply ih hrest

/-- The datum of a JSON value is read as the tree of the value. -/
theorem ofDatum_toDatum {j : Json} (h : j.Ordered) :
  Tree.ofDatum j.toDatum = .ok (Tree.ofJson j)
  := by
  induction j using Json.induction with
  | null => rfl
  | bool b => rfl
  | number n =>
    cases n with
    | integer i => exact ofDatum_integerDatum i
    | float x hx => rfl
  | string s => rfl
  | array items ih =>
    have hitems : ∀ j ∈ items, Tree.ofDatum j.toDatum = .ok (Tree.ofJson j) :=
      fun j hj => ih j hj (ordered_array_iff.1 h j hj)
    rw [toDatum, Tree.ofDatum, ofDatumItems_toDatumItems hitems, Tree.ofJson,
      Tree.ofJsonItems_eq_map]
    rfl
  | object members ih =>
    obtain ⟨hascending, hvalues⟩ := ordered_object_iff.1 h
    have hmembers : ∀ e ∈ members, Tree.ofDatum e.2.toDatum = .ok (Tree.ofJson e.2) :=
      fun e he => ih e he (hvalues e he)
    rw [toDatum, Tree.ofDatum, ofDatumEntries_toDatumMembers hmembers, ← Entries.ofList,
      Entries.ofList_of_perm .rfl (hascending.map _), Tree.ofJson, Tree.ofJsonMembers_eq_map]
    rfl

end Json

/-! ### Writing trees -/

namespace Tree

theorem ofDatumItems?_toDatumItems {items : List Tree}
    (h : ∀ t ∈ items, Json.ofDatum? t.toDatum = some t.toJson) :
  Json.ofDatumItems? (toDatumItems items) = some (items.map toJson)
  := by
  induction items with
  | nil => rfl
  | cons t rest ih =>
    obtain ⟨ht, hrest⟩ := List.forall_mem_cons.1 h
    rw [toDatumItems, Json.ofDatumItems?, ht]
    simp only [ih hrest]
    rfl

theorem ofDatumEntries?_toDatumEntries {entries : List (String × Tree)} {written : Entries Json}
    (h : ∀ e ∈ entries, Json.ofDatum? e.2.toDatum = some e.2.toJson) :
  Json.ofDatumEntries? (toDatumEntries entries) written
    = some ((entries.map fun e => (e.1, e.2.toJson)).foldl
        (fun acc e => acc.insert e.1 e.2) written)
  := by
  induction entries generalizing written with
  | nil => rfl
  | cons e rest ih =>
    obtain ⟨key, t⟩ := e
    obtain ⟨ht, hrest⟩ := List.forall_mem_cons.1 h
    rw [toDatumEntries, Json.ofDatumEntries?]
    simp only [ht]
    apply ih hrest

/-- The datum of a tree becomes the JSON value of the tree. -/
theorem ofDatum?_toDatum {t : Tree} (h : t.Ordered) :
  Json.ofDatum? t.toDatum = some t.toJson
  := by
  induction t using Tree.induction with
  | sequence items ih =>
    have hitems : ∀ t ∈ items, Json.ofDatum? t.toDatum = some t.toJson :=
      fun t ht => ih t ht (ordered_sequence_iff.1 h t ht)
    rw [toDatum, Json.ofDatum?, ofDatumItems?_toDatumItems hitems, toJson, toJsonItems_eq_map]
    rfl
  | mapping entries ih =>
    obtain ⟨hascending, hvalues⟩ := ordered_mapping_iff.1 h
    have hentries : ∀ e ∈ entries, Json.ofDatum? e.2.toDatum = some e.2.toJson :=
      fun e he => ih e he (hvalues e he)
    rw [toDatum, Json.ofDatum?, ofDatumEntries?_toDatumEntries hentries, ← Entries.ofList,
      Entries.ofList_of_perm .rfl (hascending.map _), toJson, toJsonEntries_eq_map]
    rfl
  | _ => rfl

/-! ### Order -/

theorem ordered_ofBytes (bytes : List UInt8) :
  (Json.ofBytes bytes).Ordered
  := by
  apply Json.ordered_array_iff.2
  intro j hj
  obtain ⟨b, -, rfl⟩ := List.mem_map.1 hj
  trivial

theorem ordered_ofBinary64 (x : Binary64) :
  (Json.ofBinary64 x).Ordered
  := by
  by_cases h : x.isFinite = true
  · rw [Json.ofBinary64_of_isFinite h]
    trivial
  · rw [Json.ofBinary64_of_not_isFinite h]
    trivial

/-- The JSON value of an ordered tree is ordered. -/
theorem Ordered.toJson {t : Tree} (h : t.Ordered) :
  t.toJson.Ordered
  := by
  induction t using Tree.induction with
  | float x => exact ordered_ofBinary64 x
  | bytes bs => exact ordered_ofBytes bs
  | sequence items ih =>
    rw [Tree.toJson, toJsonItems_eq_map, Json.ordered_array_iff]
    rw [List.forall_mem_map]
    intro t ht
    apply ih t ht (ordered_sequence_iff.1 h t ht)
  | mapping entries ih =>
    obtain ⟨hascending, hvalues⟩ := ordered_mapping_iff.1 h
    rw [Tree.toJson, toJsonEntries_eq_map, Json.ordered_object_iff]
    use hascending.map _
    rw [List.forall_mem_map]
    intro e he
    apply ih e he (hvalues e he)
  | _ => trivial

theorem ordered_ofWordInteger (i : WordInteger) :
  (ofWordInteger i).Ordered
  := by
  by_cases h : i.val < 2 ^ 63
  · rw [ofWordInteger_of_lt h]
    trivial
  · rw [ofWordInteger_of_not_lt h]
    trivial

/-- The tree of an ordered JSON value is ordered. -/
theorem ordered_ofJson {j : Json} (h : j.Ordered) :
  (ofJson j).Ordered
  := by
  induction j using Json.induction with
  | number n =>
    cases n with
    | integer i => exact ordered_ofWordInteger i
    | float x hx => trivial
  | array items ih =>
    rw [ofJson, ofJsonItems_eq_map, ordered_sequence_iff]
    rw [List.forall_mem_map]
    intro j hj
    apply ih j hj (Json.ordered_array_iff.1 h j hj)
  | object members ih =>
    obtain ⟨hascending, hvalues⟩ := Json.ordered_object_iff.1 h
    rw [ofJson, ofJsonMembers_eq_map, ordered_mapping_iff]
    use hascending.map _
    rw [List.forall_mem_map]
    intro e he
    apply ih e he (hvalues e he)
  | _ => trivial

end Tree

end LayeredConfig
