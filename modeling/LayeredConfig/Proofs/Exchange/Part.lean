import LayeredConfig.Json.Basic
import LayeredConfig.Tree.Basic
import LayeredConfig.Yaml.Basic
import Mathlib.Logic.Relation

/-!
# Parts of values

The parts of a value are the value itself and the parts of its children (`Tree.IsPart`,
`Json.IsPart`, `Yaml.IsPart`).  Hence what is said about all parts of a value is said about the
value and all parts of each child (`Tree.forall_isPart_iff`, `Json.forall_isPart_iff`,
`Yaml.forall_isPart_iff`); for a tree this comes down to the tree itself, to its items or to its
values.
-/

namespace LayeredConfig

/-- What holds of everything below an element holds of the element and of everything below what
is one step below it. -/
theorem forall_reflTransGen_iff {α : Type} {r : α → α → Prop} {p : α → Prop} {a : α} :
  (∀ x, Relation.ReflTransGen r x a → p x)
    ↔ p a ∧ ∀ b, r b a → ∀ x, Relation.ReflTransGen r x b → p x
  := by
  constructor
  · intro h
    refine ⟨h a .refl, ?_⟩
    intro b hb x hx
    apply h x (hx.tail hb)
  · rintro ⟨ha, hbelow⟩ x hx
    rcases hx.cases_tail with rfl | ⟨b, hxb, hb⟩
    · exact ha
    · apply hbelow b hb x hxb

/-- The items of a sequence and the values of a mapping. -/
def Tree.children : Tree → List Tree
  | .sequence items => items
  | .mapping entries => entries.map (·.2)
  | _ => []

/-- A tree is a part of another one if it is reached from there through children. -/
def Tree.IsPart : Tree → Tree → Prop := Relation.ReflTransGen fun child t => child ∈ t.children

theorem Tree.forall_isPart_iff {p : Tree → Prop} {t : Tree} :
  (∀ part, part.IsPart t → p part) ↔ p t ∧ ∀ child ∈ t.children, ∀ part, part.IsPart child → p part
  := forall_reflTransGen_iff

theorem Tree.forall_isPart_iff_of_isScalar {p : Tree → Prop} {t : Tree} (h : t.isScalar = true) :
  (∀ part, part.IsPart t → p part) ↔ p t
  := by
  have hchildren : t.children = [] := by
    cases t <;> first | rfl | cases h
  rw [forall_isPart_iff, hchildren]
  exact and_iff_left (List.forall_mem_nil _)

theorem Tree.forall_isPart_sequence_iff {p : Tree → Prop} {items : List Tree}
    (h : p (.sequence items)) :
  (∀ part, part.IsPart (.sequence items) → p part) ↔ ∀ t ∈ items, ∀ part, part.IsPart t → p part
  := forall_isPart_iff.trans (and_iff_right h)

theorem Tree.forall_isPart_mapping_iff {p : Tree → Prop} {entries : List (String × Tree)}
    (h : p (.mapping entries)) :
  (∀ part, part.IsPart (.mapping entries) → p part)
    ↔ ∀ e ∈ entries, ∀ part, part.IsPart e.2 → p part
  := forall_isPart_iff.trans ((and_iff_right h).trans List.forall_mem_map)

/-- The items of an array and the values of an object. -/
def Json.children : Json → List Json
  | .array items => items
  | .object members => members.map (·.2)
  | _ => []

/-- A JSON value is a part of another one if it is reached from there through children. -/
def Json.IsPart : Json → Json → Prop := Relation.ReflTransGen fun child j => child ∈ j.children

theorem Json.forall_isPart_iff {p : Json → Prop} {j : Json} :
  (∀ part, part.IsPart j → p part) ↔ p j ∧ ∀ child ∈ j.children, ∀ part, part.IsPart child → p part
  := forall_reflTransGen_iff

/-- The items of a sequence, the keys and values of a mapping, and what stands under a tag. -/
def Yaml.children : Yaml → List Yaml
  | .sequence items => items
  | .mapping entries => entries.flatMap fun e => [e.1, e.2]
  | .tagged _ value => [value]
  | _ => []

/-- A YAML value is a part of another one if it is reached from there through children. -/
def Yaml.IsPart : Yaml → Yaml → Prop := Relation.ReflTransGen fun child y => child ∈ y.children

theorem Yaml.forall_isPart_iff {p : Yaml → Prop} {y : Yaml} :
  (∀ part, part.IsPart y → p part) ↔ p y ∧ ∀ child ∈ y.children, ∀ part, part.IsPart child → p part
  := forall_reflTransGen_iff

end LayeredConfig
