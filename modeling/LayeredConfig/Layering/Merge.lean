import LayeredConfig.Layering.Key
import LayeredConfig.Layering.Union

/-!
# Merging one tree over another

`top.mergeOver base` lays the dominant tree `top` over `base`.  Two sequences are united, two
mappings are merged key by key, and in every other case `top` is taken as it is.  The keys of
`top` are visited in ascending order; a key that ends in a marker gives its value to the name
without the marker, replacing what is there or filling a gap.
-/

namespace LayeredConfig

namespace Tree

mutual

/-- The dominant tree laid over the other. -/
def mergeOver : Tree → Tree → Except Error Tree
  | .sequence overlay, .sequence base =>
    (Layering.inOrder (Layering.union overlay base)).map .sequence
  | .mapping overlay, .mapping base => (mergeEntries overlay base).map .mapping
  | top, _ => .ok top

/-- The entries of an overlay laid one after the other over those merged so far. -/
def mergeEntries : List (String × Tree) → Entries Tree → Except Error (Entries Tree)
  | [], merged => .ok merged
  | (raw, value) :: rest, merged =>
    let key := MergeKey.parse raw
    match key.directive with
    | .override => mergeEntries rest (merged.insert key.name value)
    | .fallback =>
      if (merged.find? key.name).isSome then mergeEntries rest merged
      else mergeEntries rest (merged.insert key.name value)
    | .plain =>
      match merged.find? key.name with
      | none => mergeEntries rest (merged.insert key.name value)
      | some existing =>
        match value.mergeOver existing with
        | .error e => .error e
        | .ok combined => mergeEntries rest (merged.insert key.name combined)

end

/-- A scalar replaces whatever lies below it. -/
theorem mergeOver_of_isScalar {top : Tree} (h : top.isScalar = true) (base : Tree) :
  top.mergeOver base = .ok top
  := by
  cases top <;> first | rfl | simp [isScalar] at h

/-- Layers laid over a tree one after the other, the first one lowest. -/
def mergeLayers (layers : List Tree) (base : Tree) : Except Error Tree :=
  layers.foldlM (fun merged layer => layer.mergeOver merged) base

/-- Merging entries keeps the keys ascending. -/
theorem ascending_of_mergeEntries {overlay : List (String × Tree)} {base merged : Entries Tree}
    (hb : base.Ascending) (h : mergeEntries overlay base = .ok merged) :
  merged.Ascending
  := by
  induction overlay generalizing base with
  | nil =>
    simp only [mergeEntries, Except.ok.injEq] at h
    exact h ▸ hb
  | cons e rest ih =>
    obtain ⟨raw, value⟩ := e
    rw [mergeEntries] at h
    split at h
    · exact ih (hb.insert _ _) h
    · split at h
      · exact ih hb h
      · exact ih (hb.insert _ _) h
    · split at h
      · exact ih (hb.insert _ _) h
      · split at h
        · contradiction
        · exact ih (hb.insert _ _) h

/-- What holds of the values of two mappings, and is kept when one of them is merged, holds of the
values of the merged mapping. -/
theorem forall_mem_of_mergeEntries {p : Tree → Prop} {overlay : List (String × Tree)}
    {base merged : Entries Tree} (ho : ∀ e ∈ overlay, p e.2) (hb : ∀ e ∈ base, p e.2)
    (hkept : ∀ e ∈ overlay, ∀ existing combined, p existing →
      e.2.mergeOver existing = .ok combined → p combined)
    (h : mergeEntries overlay base = .ok merged) :
  ∀ e ∈ merged, p e.2
  := by
  induction overlay generalizing base with
  | nil =>
    simp only [mergeEntries, Except.ok.injEq] at h
    exact h ▸ hb
  | cons e rest ih =>
    obtain ⟨raw, value⟩ := e
    obtain ⟨hvalue, hrest⟩ := List.forall_mem_cons.1 ho
    obtain ⟨hfirst, hlater⟩ := List.forall_mem_cons.1 hkept
    have hinsert : ∀ {name : String} {v : Tree}, p v → ∀ e ∈ base.insert name v, p e.2 := by
      intro name v hv e he
      rcases Entries.mem_insert he with rfl | he
      · exact hv
      · exact hb e he
    rw [mergeEntries] at h
    split at h
    · exact ih hrest (hinsert hvalue) hlater h
    · split at h
      · exact ih hrest hb hlater h
      · exact ih hrest (hinsert hvalue) hlater h
    · split at h
      · exact ih hrest (hinsert hvalue) hlater h
      · next existing hexisting =>
        split at h
        · contradiction
        · next combined hcombined =>
          have hp := hfirst existing combined (hb _ (Entries.mem_of_find? hexisting)) hcombined
          exact ih hrest (hinsert hp) hlater h

/-- Merging two ordered trees gives an ordered one. -/
theorem Ordered.mergeOver {top base merged : Tree} (ht : top.Ordered) (hb : base.Ordered)
    (h : top.mergeOver base = .ok merged) :
  merged.Ordered
  := by
  induction top using Tree.induction generalizing base merged with
  | sequence overlay =>
    cases base with
    | sequence below =>
      rw [Tree.mergeOver] at h
      cases hsorted : Layering.inOrder (Layering.union overlay below) with
      | error e =>
        rw [hsorted] at h
        cases h
      | ok sorted =>
        rw [hsorted] at h
        cases h
        rw [ordered_sequence_iff] at ht hb ⊢
        intro x hx
        rcases Layering.mem_of_mem_union ((Layering.perm_of_inOrder hsorted).mem_iff.1 hx) with hx | hx
        · exact hb x hx
        · exact ht x hx
    | _ =>
      cases h
      exact ht
  | mapping overlay ih =>
    cases base with
    | mapping below =>
      rw [Tree.mergeOver] at h
      cases hentries : mergeEntries overlay below with
      | error e =>
        rw [hentries] at h
        cases h
      | ok entries =>
        rw [hentries] at h
        cases h
        rw [ordered_mapping_iff] at ht hb ⊢
        refine ⟨ascending_of_mergeEntries hb.1 hentries, ?_⟩
        exact forall_mem_of_mergeEntries ht.2 hb.2
          (fun e he _ _ hexisting hcombined => ih e he (ht.2 e he) hexisting hcombined) hentries
    | _ =>
      cases h
      exact ht
  | _ =>
    cases h
    exact ht

/-- Laying ordered layers over an ordered tree gives an ordered one. -/
theorem Ordered.mergeLayers {layers : List Tree} {base merged : Tree} (hb : base.Ordered)
    (hl : ∀ layer ∈ layers, layer.Ordered) (h : Tree.mergeLayers layers base = .ok merged) :
  merged.Ordered
  := by
  induction layers generalizing base with
  | nil =>
    cases h
    exact hb
  | cons layer layers ih =>
    obtain ⟨hlayer, hlayers⟩ := List.forall_mem_cons.1 hl
    rw [Tree.mergeLayers, List.foldlM_cons] at h
    cases hfirst : layer.mergeOver base with
    | error e =>
      rw [hfirst] at h
      cases h
    | ok next =>
      rw [hfirst] at h
      exact ih (hlayer.mergeOver hb hfirst) hlayers h

end Tree

end LayeredConfig
