import LayeredConfig.Proofs.Exchange.Json
import LayeredConfig.Proofs.Exchange.Part
import LayeredConfig.Release.Document

/-!
# Round trips through JSON

JSON has neither bytes nor floats that are not finite.  `Tree.portable` replaces them, and so does
a tree that goes out to JSON and comes back (`Tree.ofJson_toJson`): exactly the trees without them
come back unchanged (`Tree.portable_eq_self_iff`).  In the other direction exactly the JSON values
come back unchanged whose integers fit a signed word (`Json.toJson_ofJson_iff`).  Both ways out
give the same value, and a document goes the way of its root (`exchange_round_trips`).
-/

namespace LayeredConfig

theorem List.map_eq_self_iff {α : Type} {f : α → α} {l : List α} :
  l.map f = l ↔ ∀ a ∈ l, f a = a
  := by
  calc l.map f = l
      ↔ l.map f = l.map id := by rw [List.map_id]
    _ ↔ ∀ a ∈ l, f a = a := List.map_inj_left

namespace Tree

/-! ### Portable trees -/

mutual

/-- A tree with everything replaced that JSON does not have: bytes by the sequence of their values,
and floats that are not finite by null. -/
def portable : Tree → Tree
  | .float x => if x.isFinite then .float x else .null
  | .bytes bs => .sequence (bs.map fun b => .integer (.ofNat b.toNat))
  | .sequence items => .sequence (portableItems items)
  | .mapping entries => .mapping (portableEntries entries)
  | t => t

/-- The items of a sequence, each made portable. -/
def portableItems : List Tree → List Tree
  | [] => []
  | t :: rest => t.portable :: portableItems rest

/-- The entries of a mapping, each value made portable. -/
def portableEntries : List (String × Tree) → List (String × Tree)
  | [] => []
  | (key, t) :: rest => (key, t.portable) :: portableEntries rest

end

theorem portable_sequence (items : List Tree) :
  (sequence items).portable = .sequence (items.map portable)
  := by
  rw [portable, sequence.injEq]
  induction items with
  | nil => rfl
  | cons t rest ih => rw [portableItems, ih, List.map_cons]

theorem portable_mapping (entries : List (String × Tree)) :
  (mapping entries).portable = .mapping (entries.map fun e => (e.1, e.2.portable))
  := by
  rw [portable, mapping.injEq]
  induction entries with
  | nil => rfl
  | cons e rest ih => rw [portableEntries, ih, List.map_cons]

/-- JSON has a notation for a tree, whatever its children are. -/
def HasNotation : Tree → Prop
  | .float x => x.isFinite = true
  | .bytes _ => False
  | _ => True

/-- JSON has a notation for every part of a tree: there are no bytes, and all floats are finite. -/
def IsPortable (t : Tree) : Prop := ∀ part : Tree, part.IsPart t → part.HasNotation

theorem isPortable_iff {t : Tree} :
  t.IsPortable ↔ t.HasNotation ∧ ∀ child ∈ t.children, child.IsPortable
  := forall_isPart_iff

/-- Exactly the portable trees are left as they are. -/
theorem portable_eq_self_iff {t : Tree} :
  t.portable = t ↔ t.IsPortable
  := by
  induction t using Tree.induction with
  | float x =>
    rw [isPortable_iff, portable]
    split
    · next h => simp [HasNotation, children, h]
    · next h => simp [HasNotation, h]
  | bytes bs =>
    rw [isPortable_iff, portable]
    simp [HasNotation]
  | sequence items ih =>
    rw [isPortable_iff, portable_sequence, sequence.injEq, List.map_eq_self_iff]
    simp only [HasNotation, children, true_and]
    apply forall₂_congr ih
  | mapping entries ih =>
    rw [isPortable_iff, portable_mapping, mapping.injEq, List.map_eq_self_iff]
    simp only [HasNotation, children, true_and, List.forall_mem_map, Prod.ext_iff]
    apply forall₂_congr ih
  | _ => exact iff_of_true rfl (isPortable_iff.2 ⟨trivial, List.forall_mem_nil _⟩)

/-! ### Out and back -/

theorem ofJson_ofBinary64 (x : Binary64) :
  ofJson (.ofBinary64 x) = (Tree.float x).portable
  := by
  rw [portable]
  split
  · next h => rw [Json.ofBinary64_of_isFinite h, ofJson]
  · next h => rw [Json.ofBinary64_of_not_isFinite h, ofJson]

theorem ofWordInteger_toUInt64 (b : UInt8) :
  ofWordInteger (.ofUInt64 b.toUInt64) = .integer (.ofNat b.toNat)
  := by
  have hval : (WordInteger.ofUInt64 b.toUInt64).val = b.toNat :=
    congrArg Nat.cast (UInt8.toNat_toUInt64 b)
  have hlt : (b.toNat : Int) < 2 ^ 63 := by
    have := b.toNat_lt
    omega
  rw [ofWordInteger_of_lt (hval ▸ hlt), hval, Int64.ofInt_eq_ofNat]

theorem ofJson_ofBytes (bytes : List UInt8) :
  ofJson (.ofBytes bytes) = (Tree.bytes bytes).portable
  := by
  rw [Json.ofBytes, ofJson, ofJsonItems_eq_map, portable, List.map_map]
  apply congrArg sequence
  apply List.map_congr_left
  intro b _
  rw [Function.comp_apply, ofJson, ofWordInteger_toUInt64]

theorem ofJson_toJson (t : Tree) :
  ofJson t.toJson = t.portable
  := by
  induction t using Tree.induction with
  | integer i =>
    rw [toJson, ofJson, ofWordInteger, WordInteger.toInt64?_ofInt64]
    rfl
  | float x => exact ofJson_ofBinary64 x
  | bytes bs => exact ofJson_ofBytes bs
  | sequence items ih =>
    rw [toJson, ofJson, toJsonItems_eq_map, ofJsonItems_eq_map, portable_sequence, List.map_map]
    apply congrArg sequence
    apply List.map_congr_left ih
  | mapping entries ih =>
    rw [toJson, ofJson, toJsonEntries_eq_map, ofJsonMembers_eq_map, portable_mapping, List.map_map]
    apply congrArg mapping
    apply List.map_congr_left
    intro e he
    apply congrArg (Prod.mk e.1) (ih e he)
  | _ => rfl

end Tree

/-! ### In and back -/

namespace Json

/-- If a JSON value is an integer then it fits a signed word. -/
def FitsSigned : Json → Prop
  | .number (.integer i) => i.val < 2 ^ 63
  | _ => True

/-- All integers in a JSON value fit signed words. -/
def IsSigned (j : Json) : Prop := ∀ part : Json, part.IsPart j → part.FitsSigned

theorem isSigned_iff {j : Json} :
  j.IsSigned ↔ j.FitsSigned ∧ ∀ child ∈ j.children, child.IsSigned
  := forall_isPart_iff

theorem ofBinary64_ne_integer (x : Binary64) (i : WordInteger) :
  ofBinary64 x ≠ .number (.integer i)
  := by
  by_cases h : x.isFinite = true
  · rw [ofBinary64_of_isFinite h]
    nofun
  · rw [ofBinary64_of_not_isFinite h]
    nofun

theorem toJson_ofWordInteger_iff {i : WordInteger} :
  (Tree.ofWordInteger i).toJson = .number (.integer i) ↔ i.val < 2 ^ 63
  := by
  by_cases h : i.val < 2 ^ 63
  · rw [Tree.ofWordInteger_of_lt h, Tree.toJson, WordInteger.ofInt64_ofInt (Int.le_of_lt_add_one h)]
    apply iff_of_true rfl h
  · rw [Tree.ofWordInteger_of_not_lt h, Tree.toJson]
    apply iff_of_false (ofBinary64_ne_integer _ i) h

/-- Exactly the JSON values whose integers fit signed words are the same after they have come in as
trees and gone out again. -/
theorem toJson_ofJson_iff {j : Json} :
  (Tree.ofJson j).toJson = j ↔ j.IsSigned
  := by
  induction j using Json.induction with
  | number n =>
    rw [isSigned_iff]
    cases n with
    | integer i =>
      rw [Tree.ofJson, toJson_ofWordInteger_iff]
      simp [FitsSigned, children]
    | float x hx =>
      rw [Tree.ofJson, Tree.toJson, ofBinary64_of_isFinite hx]
      simp [FitsSigned, children]
  | array items ih =>
    rw [isSigned_iff, Tree.ofJson, Tree.toJson, Tree.ofJsonItems_eq_map, Tree.toJsonItems_eq_map,
      List.map_map, array.injEq, List.map_eq_self_iff]
    simp only [FitsSigned, children, true_and]
    apply forall₂_congr ih
  | object members ih =>
    rw [isSigned_iff, Tree.ofJson, Tree.toJson, Tree.ofJsonMembers_eq_map,
      Tree.toJsonEntries_eq_map, List.map_map, object.injEq, List.map_eq_self_iff]
    simp only [FitsSigned, children, true_and, List.forall_mem_map, Prod.ext_iff,
      Function.comp_apply]
    apply forall₂_congr ih
  | _ => exact iff_of_true rfl (isSigned_iff.2 ⟨trivial, List.forall_mem_nil _⟩)

end Json

/-! ### Trees and documents -/

/-- The document that is read from an ordered JSON value has the tree of the value as root. -/
theorem ReleasesDocument.ofDatum_toDatum {j : Json} (h : j.Ordered) :
  ofDatum j.toDatum = .ok ⟨Tree.ofJson j⟩
  := by
  rw [ofDatum, Json.ofDatum_toDatum h]
  rfl

/-- A tree written as a datum becomes its JSON value.  That value comes back as the tree with bytes
and floats that are not finite replaced, hence unchanged for the trees without them, and a JSON
value comes back unchanged if its integers fit signed words.  A document is written and read as its
root is. -/
theorem exchange_round_trips :
  (∀ t : Tree, t.Ordered → Json.ofDatum? t.toDatum = some t.toJson)
    ∧ (∀ t : Tree, Tree.ofJson t.toJson = t.portable ∧ (t.portable = t ↔ t.IsPortable))
    ∧ (∀ j : Json, (Tree.ofJson j).toJson = j ↔ j.IsSigned)
    ∧ (∀ doc : ReleasesDocument, doc.root.Ordered →
      Json.ofDatum? doc.toDatum = some doc.root.toJson
      ∧ ReleasesDocument.ofDatum doc.root.toJson.toDatum = .ok ⟨doc.root.portable⟩)
    ∧ ∀ j : Json, j.Ordered → ∃ doc, ReleasesDocument.ofDatum j.toDatum = .ok doc
      ∧ (Json.ofDatum? doc.toDatum = some j ↔ j.IsSigned)
  := by
  refine ⟨fun _ => Tree.ofDatum?_toDatum, ?_, fun _ => Json.toJson_ofJson_iff, ?_, ?_⟩
  · intro t
    exact ⟨Tree.ofJson_toJson t, Tree.portable_eq_self_iff⟩
  · intro doc h
    use Tree.ofDatum?_toDatum h
    rw [ReleasesDocument.ofDatum_toDatum h.toJson, Tree.ofJson_toJson]
  · intro j h
    use ⟨Tree.ofJson j⟩, ReleasesDocument.ofDatum_toDatum h
    rw [ReleasesDocument.toDatum, Tree.ofDatum?_toDatum (Tree.ordered_ofJson h), Option.some_inj,
      Json.toJson_ofJson_iff]

/-- A tree with bytes, whole and other floats and a negative integer. -/
def mixedTree : Tree :=
  .mapping [("bytes", .bytes [0, 255]),
    ("floats", .sequence [.float (.ofInt 1), .float (.infinite true), .float .nan]),
    ("integer", .integer (-1))]

/-- What is left of the mixed tree after it has been out as JSON. -/
def returnedTree : Tree :=
  .mapping [("bytes", .sequence [.integer 0, .integer 255]),
    ("floats", .sequence [.float (.ofInt 1), .null, .null]),
    ("integer", .integer (-1))]

/-- The least and the greatest integer that fit a signed word, in an object. -/
def edgeIntegers : Json :=
  .object [("greatest", .number (.integer (.ofInt64 9223372036854775807))),
    ("least", .number (.integer (.ofInt64 (-9223372036854775808))))]

theorem isSigned_edgeIntegers :
  edgeIntegers.IsSigned
  := by
  have hfits : ∀ i : Int64, (Json.number (.integer (.ofInt64 i))).IsSigned := fun i =>
    Json.isSigned_iff.2 ⟨i.toInt_lt, List.forall_mem_nil _⟩
  rw [edgeIntegers, Json.isSigned_iff]
  use trivial
  simp [Json.children, hfits]

theorem exchange_round_trips_mixedTree :
  Json.ofDatum? mixedTree.toDatum = some mixedTree.toJson
    ∧ Tree.ofJson mixedTree.toJson = returnedTree
    ∧ ¬mixedTree.IsPortable
    ∧ returnedTree.IsPortable
    ∧ (Tree.ofJson edgeIntegers).toJson = edgeIntegers
    ∧ ReleasesDocument.ofDatum mixedTree.toJson.toDatum = .ok ⟨returnedTree⟩
    ∧ ∃ doc, ReleasesDocument.ofDatum edgeIntegers.toDatum = .ok doc
      ∧ Json.ofDatum? doc.toDatum = some edgeIntegers
  := by
  obtain ⟨hwritten, hback, hsigned, hdocument, hread⟩ := exchange_round_trips
  have hordered : mixedTree.Ordered := by decide +kernel
  have hportable : mixedTree.portable = returnedTree := by decide +kernel
  have hkept : returnedTree.portable = returnedTree := by decide +kernel
  have hlost : mixedTree.portable ≠ mixedTree := by decide +kernel
  obtain ⟨doc, hdoc, hagain⟩ := hread edgeIntegers (by decide +kernel)
  refine ⟨hwritten _ hordered, ?_, ?_, ?_, ?_, ?_, doc, hdoc, hagain.2 isSigned_edgeIntegers⟩
  · rw [(hback mixedTree).1, hportable]
  · rw [← (hback mixedTree).2]
    apply hlost
  · rw [← (hback returnedTree).2]
    apply hkept
  · apply (hsigned edgeIntegers).2 isSigned_edgeIntegers
  · rw [(hdocument ⟨mixedTree⟩ hordered).2, hportable]

end LayeredConfig
