import LayeredConfig.Proofs.Binary64.Nearest
import LayeredConfig.Proofs.Exchange.Part
import LayeredConfig.Proofs.Exchange.Yaml

/-!
# Agreement of the decoders

There are three ways into a tree: from a JSON value, from a YAML value, and from the data that
either of them is offered as.  A JSON value has the same tree on all three ways, whatever the order
in which a YAML value states its members (`decoders_agree`).
-/

namespace LayeredConfig

/-! ### Parts of the tree of a JSON value -/

namespace Json

/-- An integer that fits a signed word is read as itself. -/
theorem ofJson_integer_of_lt {i : WordInteger} (h : i.val < 2 ^ 63) :
  ∃ w : Int64, Tree.ofJson (.number (.integer i)) = .integer w ∧ w.toInt = i.val
  := by
  use .ofInt i.val, Tree.ofWordInteger_of_lt h
  apply Int64.toInt_ofInt_of_le i.lower h

/-- An integer beyond the signed words is read as the nearest float. -/
theorem ofJson_integer_of_not_lt {i : WordInteger} (h : ¬i.val < 2 ^ 63) :
  ∃ x : Binary64, Tree.ofJson (.number (.integer i)) = .float x ∧ x.IsNearest i.val
  := by
  use .ofInt i.val, Tree.ofWordInteger_of_not_lt h
  obtain ⟨n, hn⟩ := Int.eq_ofNat_of_zero_le (Int.le_trans (by decide) (Int.not_lt.1 h))
  have hupper := i.upper
  rw [hn] at hupper ⊢
  apply Binary64.isNearest_ofInt (by exact_mod_cast hupper)

/-- The children of a JSON value become the children of its tree. -/
theorem children_ofJson (j : Json) :
  (Tree.ofJson j).children = j.children.map Tree.ofJson
  := by
  cases j with
  | number n =>
    cases n with
    | integer i =>
      rw [Tree.ofJson]
      by_cases h : i.val < 2 ^ 63
      · rw [Tree.ofWordInteger_of_lt h]
        rfl
      · rw [Tree.ofWordInteger_of_not_lt h]
        rfl
    | float x hx => rfl
  | array items => rw [Tree.ofJson, Tree.children, children, Tree.ofJsonItems_eq_map]
  | object members =>
    rw [Tree.ofJson, Tree.children, children, Tree.ofJsonMembers_eq_map, List.map_map, List.map_map]
    rfl
  | _ => rfl

/-- The parts of a JSON value become parts of its tree. -/
theorem IsPart.ofJson {part j : Json} (h : part.IsPart j) :
  (Tree.ofJson part).IsPart (Tree.ofJson j)
  := by
  refine Relation.ReflTransGen.lift Tree.ofJson ?_ _ _ h
  intro child whole hchild
  change Tree.ofJson child ∈ (Tree.ofJson whole).children
  rw [children_ofJson]
  apply List.mem_map_of_mem hchild

end Json

/-- A JSON value has the same tree if it is read as it is, as a datum or as a YAML value that states
it, and there is one that does.  In this tree each part has its own tree, which is an integer for
what fits a signed word, and the nearest float for an integer beyond.  A YAML value of any shape has
a tree exactly if the datum that it is offered as has one, and it is the same. -/
theorem decoders_agree :
  (∀ j : Json, j.Ordered →
    Tree.ofDatum j.toDatum = .ok (Tree.ofJson j)
    ∧ j.StatedBy j.toYaml
    ∧ ∀ y : Yaml, j.StatedBy y → Tree.ofYaml y = .ok (Tree.ofJson j))
    ∧ (∀ part j : Json, part.IsPart j → (Tree.ofJson part).IsPart (Tree.ofJson j))
    ∧ (∀ i : WordInteger,
      (i.val < 2 ^ 63 →
        ∃ w : Int64, Tree.ofJson (.number (.integer i)) = .integer w ∧ w.toInt = i.val)
      ∧ (¬i.val < 2 ^ 63 →
        ∃ x : Binary64, Tree.ofJson (.number (.integer i)) = .float x ∧ x.IsNearest i.val))
    ∧ ∀ (y : Yaml) (t : Tree), Tree.ofYaml y = .ok t ↔ Tree.ofDatum y.toDatum = .ok t
  := by
  refine ⟨?_, fun _ _ => Json.IsPart.ofJson,
    fun _ => ⟨Json.ofJson_integer_of_lt, Json.ofJson_integer_of_not_lt⟩, Yaml.ofYaml_eq_ok_iff⟩
  intro j hj
  use Json.ofDatum_toDatum hj, j.statedBy_toYaml
  intro y h
  apply h.ofYaml hj

/-- An object with the greatest unsigned word, next to a negative integer and a whole float. -/
def nestedNumbers : Json :=
  .object [("greatest", .number (.integer (.ofUInt64 18446744073709551615))),
    ("others", .array [.number (.integer (.ofInt64 (-1))), .number (.float (.finite false 1023 0) rfl)])]

/-- The same object with the array first. -/
def swappedNumbers : Yaml :=
  .mapping [(.string "others", .sequence [.integer (.ofInt64 (-1)), .float (.finite false 1023 0)]),
    (.string "greatest", .integer (.ofUInt64 18446744073709551615))]

/-- The greatest unsigned word is read as the power of two behind it. -/
theorem decoders_agree_nestedNumbers :
  nestedNumbers.Ordered
    ∧ nestedNumbers.StatedBy swappedNumbers
    ∧ Tree.ofJson nestedNumbers = .mapping [("greatest", .float (.finite false 1087 0)),
      ("others", .sequence [.integer (-1), .float (.finite false 1023 0)])]
    ∧ Tree.ofDatum nestedNumbers.toDatum = .ok (Tree.ofJson nestedNumbers)
    ∧ Tree.ofYaml swappedNumbers = .ok (Tree.ofJson nestedNumbers)
    ∧ (∃ x : Binary64, Tree.ofJson (.number (.integer (.ofUInt64 18446744073709551615))) = .float x
      ∧ x.IsNearest 18446744073709551615)
    ∧ ∀ t, Tree.ofYaml (.tagged "Thing" swappedNumbers) = .ok t
      ↔ Tree.ofDatum (Yaml.tagged "Thing" swappedNumbers).toDatum = .ok t
  := by
  obtain ⟨hjson, -, hintegers, hyaml⟩ := decoders_agree
  have hordered : nestedNumbers.Ordered := by decide +kernel
  have hfloat := Json.StatedBy.float (.finite false 1023 0) rfl
  have hothers := Json.ItemsStatedBy.cons (.integer (.ofInt64 (-1))) (.cons hfloat .nil)
  have hstated : nestedNumbers.StatedBy swappedNumbers :=
    .object (.cons (.integer _) (.cons (.array hothers) .nil)) (.swap _ _ _)
  obtain ⟨hdatum, -, hnodes⟩ := hjson nestedNumbers hordered
  refine ⟨hordered, hstated, by decide +kernel, hdatum, hnodes _ hstated, ?_, hyaml _⟩
  apply (hintegers (.ofUInt64 18446744073709551615)).2
  decide

end LayeredConfig
