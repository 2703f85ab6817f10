import LayeredConfig.Proofs.Layering.Failure
import LayeredConfig.Proofs.Release.Inheritance
import Mathlib.Data.List.Basic

/-!
# Fields resolved along the chain

A field is present on a chain if some assembly of the chain has it, with whatever value.  Its
value is then that of the assembly nearest to the far end, taken as it is written, with the
values of the other assemblies that have the field laid over it (`field_eq_stack`).  Unlike
the configuration of the group a field has no seed, and a value that counts as false is a
layer like any other.
-/

namespace LayeredConfig

/-- The other layers laid over the lowest one, which is taken as it is; nothing without
layers. -/
def Tree.stack : List Tree → Except Error (Option Tree)
  | [] => .ok none
  | lowest :: upper => (Tree.mergeLayers upper lowest).map some

/-- Where a stack of layers succeeds, it gives a value exactly if there is a layer. -/
theorem Tree.isSome_of_stack {layers : List Tree} {result : Option Tree}
    (h : Tree.stack layers = .ok result) :
  result.isSome = true ↔ layers ≠ []
  := by
  cases layers with
  | nil =>
    cases h
    simp
  | cons lowest upper =>
    obtain ⟨merged, -, rfl⟩ := Except.map_eq_ok_iff.1 h
    simp

/-- A stack of layers fails with the first layer that cannot be laid over those below; the
lowest one never fails. -/
theorem Tree.stack_eq_error_iff {layers : List Tree} {e : Error} :
  Tree.stack layers = .error e
    ↔ ∃ lowest upper, layers = lowest :: upper ∧ Tree.FirstFailure upper lowest e
  := by
  cases layers with
  | nil => simp [Tree.stack]
  | cons lowest upper =>
    rw [Tree.stack, Except.map_eq_error_iff, Tree.mergeLayers_eq_error_iff]
    constructor
    · intro h
      use lowest, upper, rfl
    · rintro ⟨_, _, heq, h⟩
      cases heq
      apply h

namespace ReleasesDocument

variable {doc : ReleasesDocument} {field : String}

/-- The values that named assemblies have for a field, in the order of the names. -/
def fieldLayers (doc : ReleasesDocument) (field : String) (names : List String) : List Tree :=
  names.filterMap fun name => (doc.assembly? name).bind fun target => target.field? field

theorem fieldLayers_ne_nil_iff {names : List String} :
  doc.fieldLayers field names ≠ []
    ↔ ∃ name ∈ names, ∃ target, doc.assembly? name = some target ∧ (target.field? field).isSome
  := by
  constructor
  · intro h
    obtain ⟨own, hm⟩ := List.exists_mem_of_ne_nil _ h
    obtain ⟨name, hn, hown⟩ := List.mem_filterMap.1 hm
    obtain ⟨target, ha, hf⟩ := Option.bind_eq_some_iff.1 hown
    use name, hn, target, ha
    simp [hf]
  · rintro ⟨name, hn, target, ha, hf⟩
    obtain ⟨own, hf⟩ := Option.isSome_iff_exists.1 hf
    apply List.ne_nil_of_mem (a := own)
    apply List.mem_filterMap.2
    use name, hn
    rw [ha, Option.bind_some, hf]

/-! ### One pass over the chain -/

/-- A name adds nothing to a field unless it is defined and has the field. -/
theorem layerAt_fieldLayer_of_none {name : String}
    (h : ((doc.assembly? name).bind fun target => target.field? field) = none)
    (inherited : Option Tree) :
  doc.layerAt (fieldLayer field) inherited name = .ok inherited
  := by
  cases ha : doc.assembly? name with
  | none => apply layerAt_of_undefined ha
  | some target =>
    rw [ha, Option.bind_some] at h
    rw [layerAt_of_defined ha]
    simp only [fieldLayer, h]

/-- A name that has the field lays its value over the inherited one; without one it gives the
value as it is. -/
theorem layerAt_fieldLayer_of_some {name : String} {own : Tree}
    (h : ((doc.assembly? name).bind fun target => target.field? field) = some own)
    (inherited : Option Tree) :
  doc.layerAt (fieldLayer field) inherited name
    = match inherited with
      | none => .ok (some own)
      | some base => (own.mergeOver base).map some
  := by
  obtain ⟨target, ha, hf⟩ := Option.bind_eq_some_iff.1 h
  rw [layerAt_of_defined ha]
  cases inherited with
  | none => simp only [fieldLayer, hf]
  | some base => simp only [fieldLayer, hf]

/-- Once there is a value, all further values are laid over it. -/
theorem foldlM_fieldLayer_some (names : List String) (base : Tree) :
  names.foldlM (doc.layerAt (fieldLayer field)) (some base)
    = (Tree.mergeLayers (doc.fieldLayers field names) base).map some
  := by
  induction names generalizing base with
  | nil => rfl
  | cons name names ih =>
    rw [List.foldlM_cons, fieldLayers, List.filterMap_cons]
    cases hown : (doc.assembly? name).bind fun target => target.field? field with
    | none =>
      rw [layerAt_fieldLayer_of_none hown]
      apply ih
    | some own =>
      rw [layerAt_fieldLayer_of_some hown, Tree.mergeLayers, List.foldlM_cons]
      simp only
      cases hm : own.mergeOver base with
      | error e => rfl
      | ok merged => apply ih

/-- Without a value before, the first one found is the lowest of the stack. -/
theorem foldlM_fieldLayer_none (names : List String) :
  names.foldlM (doc.layerAt (fieldLayer field)) none = Tree.stack (doc.fieldLayers field names)
  := by
  induction names with
  | nil => rfl
  | cons name names ih =>
    rw [List.foldlM_cons, fieldLayers, List.filterMap_cons]
    cases hown : (doc.assembly? name).bind fun target => target.field? field with
    | none =>
      rw [layerAt_fieldLayer_of_none hown]
      apply ih
    | some own =>
      rw [layerAt_fieldLayer_of_some hown]
      apply foldlM_fieldLayer_some

/-! ### The field -/

/-- An assembly that the document does not define has no fields. -/
theorem field_of_undefined {name : String} (h : doc.assembly? name = none) :
  doc.field field (some name) = .ok none
  := by
  by_cases ha : doc.isStructured = true ∧ name ≠ ""
  · have hp : doc.parent? name = none := by rw [parent?, h, Option.bind_none]
    have hc : doc.chain name = .ok [name] := (chain_eq_ok_iff ha.1 ha.2).2 (.last hp)
    rw [ReleasesDocument.field, resolve_some, hc]
    apply (foldlM_fieldLayer_none _).trans
    simp [fieldLayers, h, Tree.stack]
  · rw [ReleasesDocument.field, resolve, active?_of_inactive ha]

/-- Along a chain that ends, a field is the stack of the values that the assemblies of the
chain have for it, that of the far end lowest.  It has a value exactly if one of these
assemblies has the field, and it fails with the first value that cannot be laid over those
below.  Where no assembly is in force, and for one that is not defined, there is no value. -/
theorem field_eq_stack (doc : ReleasesDocument) (field : String) :
  (∀ name path, doc.chain name = .ok path →
      doc.field field (some name) = Tree.stack (doc.fieldLayers field path.reverse)
        ∧ (∀ result, doc.field field (some name) = .ok result →
          (result.isSome = true ↔ ∃ other ∈ path, ∃ target, doc.assembly? other = some target
            ∧ (target.field? field).isSome))
        ∧ ∀ e, doc.field field (some name) = .error e
          ↔ ∃ lowest upper, doc.fieldLayers field path.reverse = lowest :: upper
            ∧ Tree.FirstFailure upper lowest e)
    ∧ doc.field field none = .ok none
    ∧ doc.field field (some "") = .ok none
    ∧ (∀ name, doc.assembly? name = none → doc.field field (some name) = .ok none)
    ∧ (doc.isStructured = false → ∀ assembly, doc.field field assembly = .ok none)
  := by
  refine ⟨?_, rfl, ?_, ?_, ?_⟩
  · intro name path hc
    have heq : doc.field field (some name)
        = Tree.stack (doc.fieldLayers field path.reverse) := by
      rw [ReleasesDocument.field, resolve_some, hc]
      apply foldlM_fieldLayer_none
    refine ⟨heq, ?_, ?_⟩
    · intro result h
      rw [Tree.isSome_of_stack (heq.symm.trans h), fieldLayers_ne_nil_iff]
      simp only [List.mem_reverse]
    · intro e
      rw [heq]
      apply Tree.stack_eq_error_iff
  · rw [ReleasesDocument.field, resolve, active?_of_inactive (fun h => h.2 rfl)]
  · intro name h
    apply field_of_undefined h
  · intro hs assembly
    cases assembly with
    | none => rfl
    | some name =>
      have ha : ¬ (doc.isStructured = true ∧ name ≠ "") := by simp [hs]
      rw [ReleasesDocument.field, resolve, active?_of_inactive ha]

/-! ### A field with gaps -/

/-- Five releases built on each other.  The lowest one and the one in the middle have no field
`rhcos`; between them it is written with a marked key and an unsorted list, above them it gets
a further key, and the topmost release wipes it. -/
def gappedReleases : ReleasesDocument where
  root := .mapping [("releases", .mapping [
    ("1", release [] []),
    ("2", release [("assembly", .string "1")]
      [("rhcos", .mapping [("mode!", .string "auto"),
        ("rpms", .sequence [.string "b", .string "a"])])]),
    ("3", release [("assembly", .string "2")] []),
    ("4", release [("assembly", .string "3")] [("rhcos", .mapping [("mode?", .null)])]),
    ("5", release [("assembly", .string "4")] [("rhcos", .null)])])]

theorem field_gappedReleases :
  gappedReleases.chain "4" = .ok ["4", "3", "2", "1"]
    ∧ gappedReleases.field "rhcos" (some "4") = .ok (some (.mapping [("mode", .null),
      ("mode!", .string "auto"), ("rpms", .sequence [.string "b", .string "a"])]))
    ∧ gappedReleases.chain "5" = .ok ["5", "4", "3", "2", "1"]
    ∧ gappedReleases.field "rhcos" (some "5") = .ok (some .null)
    ∧ gappedReleases.assembly? "6" = none
    ∧ gappedReleases.field "rhcos" (some "6") = .ok none
    ∧ ReleasesDocument.empty.isStructured = false
    ∧ ReleasesDocument.empty.field "rhcos" (some "4") = .ok none
  := by
  have hc₄ : gappedReleases.chain "4" = .ok ["4", "3", "2", "1"] := by decide +kernel
  have hc₅ : gappedReleases.chain "5" = .ok ["5", "4", "3", "2", "1"] := by decide +kernel
  obtain ⟨hchain, -, -, hundefined, -⟩ := field_eq_stack gappedReleases "rhcos"
  obtain ⟨-, -, -, -, hunstructured⟩ := field_eq_stack ReleasesDocument.empty "rhcos"
  refine ⟨hc₄, ?_, hc₅, ?_, by decide, hundefined "6" (by decide), rfl, hunstructured rfl _⟩
  · rw [(hchain "4" _ hc₄).1]
    rfl
  · rw [(hchain "5" _ hc₅).1]
    rfl

end ReleasesDocument

end LayeredConfig
