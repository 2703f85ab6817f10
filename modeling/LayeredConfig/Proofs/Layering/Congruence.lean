import LayeredConfig.Proofs.Exchange.Part
import LayeredConfig.Proofs.Layering.Rank
import Mathlib.Data.List.Forall2

/-!
# Likeness as a congruence

The trees without `nan` are those that are like themselves (`alike_self_iff`).  Likeness is symmetric
(`alike_symm`), although it looks up only the keys of the mapping on the left: since the mappings are
of the same length, no key on the right is missed.  Of two trees that are alike either both have
something under a path, and then it is alike, or neither has (`rel_lookup_of_alike`).  So likeness is
an equivalence relation on trees without `nan`, and a congruence for lookups (`alike_congruence`).
-/

/-- Two optional values that are related lead to related ones, if related values do. -/
theorem Option.rel_bind {α β γ δ : Type} {r : α → β → Prop} {s : γ → δ → Prop} {a : Option α}
    {b : Option β} {f : α → Option γ} {g : β → Option δ} (h : Option.Rel r a b)
    (hfg : ∀ x ∈ a, ∀ y ∈ b, r x y → Option.Rel s (f x) (g y)) :
  Option.Rel s (a.bind f) (b.bind g)
  := by
  cases h with
  | none => exact .none
  | some hxy => exact hfg _ rfl _ rfl hxy

namespace LayeredConfig.Tree

variable {x y z : Tree}

/-! ### Trees that are like themselves -/

/-- No part of a tree is `nan`. -/
def NanFree (x : Tree) : Prop :=
  ∀ part : Tree, part.IsPart x → part ≠ .float .nan

theorem nanFree_iff_of_isScalar (hx : x.isScalar = true) :
  x.NanFree ↔ x ≠ .float .nan
  := forall_isPart_iff_of_isScalar hx

theorem nanFree_sequence_iff {items : List Tree} :
  (sequence items).NanFree ↔ ∀ x ∈ items, x.NanFree
  := forall_isPart_sequence_iff nofun

theorem nanFree_mapping_iff {entries : Entries Tree} :
  (mapping entries).NanFree ↔ ∀ e ∈ entries, e.2.NanFree
  := forall_isPart_mapping_iff nofun

theorem alikeScalars_self_iff :
  x.alikeScalars x = true ↔ x ≠ .float .nan
  := by
  constructor
  · rintro h rfl
    cases h
  · intro hnan
    rw [alikeScalars_iff]
    cases hnumber : x.number? with
    | none => exact .inl ⟨rfl, rfl⟩
    | some a =>
      obtain ⟨p, hp⟩ := Option.isSome_iff_exists.1 (isSome_rank? hnumber hnan)
      rw [rank?, hnumber, Option.bind_some] at hp
      exact .inr ⟨a, a, rfl, rfl, Binary64.same_iff.2 ⟨p, hp, hp⟩⟩

theorem alikeItems_iff_forall₂ {xs ys : List Tree} :
  alikeItems xs ys = true ↔ List.Forall₂ (fun x y => x.alike y = true) xs ys
  := by
  rw [alikeItems_iff, List.forall₂_iff_zip, Prod.forall]

/-- The trees that are like themselves are those without `nan`. -/
theorem alike_self_iff (ho : x.Ordered) :
  x.alike x = true ↔ x.NanFree
  := by
  induction x using Tree.induction with
  | sequence items ih =>
    rw [alike, alikeItems_iff_forall₂, List.forall₂_same, nanFree_sequence_iff]
    apply forall₂_congr
    intro item hitem
    apply ih item hitem (ordered_sequence_iff.1 ho item hitem)
  | mapping entries ih =>
    obtain ⟨hascending, hvalues⟩ := ordered_mapping_iff.1 ho
    rw [alike, beq_self_eq_true, Bool.true_and, alikeEntries_iff, nanFree_mapping_iff]
    apply forall₂_congr
    intro e he
    rw [← ih e he (hvalues e he), hascending.find?_of_mem he]
    simp
  | _ => rw [alike_of_isScalar rfl, alikeScalars_self_iff, nanFree_iff_of_isScalar rfl]

/-! ### Symmetry -/

theorem alikeScalars_symm (h : x.alikeScalars y = true) :
  y.alikeScalars x = true
  := by
  rw [alikeScalars_iff] at h ⊢
  obtain ⟨rfl, hnone⟩ | ⟨a, b, ha, hb, hab⟩ := h
  · exact .inl ⟨rfl, hnone⟩
  · rw [Binary64.same_comm] at hab
    exact .inr ⟨b, a, hb, ha, hab⟩

theorem alike_symm (hx : x.Ordered) (h : x.alike y = true) :
  y.alike x = true
  := by
  induction x using Tree.induction generalizing y with
  | sequence xs ih =>
    obtain ⟨ys, rfl, hitems⟩ := alike_sequence_iff.1 h
    have hsymm : ∀ x ∈ xs, ∀ y : Tree, x.alike y = true → y.alike x = true :=
      fun x hmem _ => ih x hmem (ordered_sequence_iff.1 hx x hmem)
    have hback : List.Forall₂ (fun x y => y.alike x = true) xs ys := by
      apply ((List.forall₂_and_left xs ys).2 ⟨hsymm, alikeItems_iff_forall₂.1 hitems⟩).imp
      rintro item other ⟨hitem, halike⟩
      apply hitem other halike
    apply alike_sequence_iff.2 ⟨xs, rfl, alikeItems_iff_forall₂.2 hback.flip⟩
  | mapping xs ih =>
    obtain ⟨ys, rfl, hl, -⟩ := alike_mapping_iff.1 h
    refine alike_mapping_iff.2 ⟨xs, rfl, hl.symm, ?_⟩
    intro e he
    -- The keys on the right are as many as those on the left, and so none of them is repeated.
    have hnodup : (Entries.keys ys).Nodup :=
      (perm_keys_of_alike hx h).nodup_iff.1 (ordered_mapping_iff.1 hx).1.nodup_keys
    obtain ⟨own, hown, halike⟩ := exists_get?_of_alike hx h (Entries.find?_of_mem_of_nodup hnodup he)
    use own, hown
    apply ih _ (Entries.mem_of_find? hown) (hx.get? hown) halike
  | _ =>
    rw [alike_of_isScalar rfl] at h
    rw [alike_of_isScalar_right rfl]
    apply alikeScalars_symm h

/-! ### Lookups -/

/-- Two trees that are alike both have something under a key, which is alike, or neither has. -/
theorem rel_get?_of_alike (hx : x.Ordered) (h : x.alike y = true) (key : String) :
  Option.Rel (fun a b => a.alike b = true) (x.get? key) (y.get? key)
  := by
  cases hright : y.get? key with
  | some value =>
    obtain ⟨own, hown, halike⟩ := exists_get?_of_alike hx h hright
    rw [hown]
    exact .some halike
  | none =>
    cases hleft : x.get? key with
    | none => exact .none
    | some own =>
      obtain ⟨xs, rfl⟩ := exists_mapping_of_get? hleft
      obtain ⟨ys, rfl, -, hentries⟩ := alike_mapping_iff.1 h
      obtain ⟨value, hvalue, -⟩ := hentries _ (Entries.mem_of_find? hleft)
      cases hright.symm.trans hvalue

/-- The same under a path of keys. -/
theorem rel_lookup_of_alike (hx : x.Ordered) (h : x.alike y = true) (path : List String) :
  Option.Rel (fun a b => a.alike b = true) (x.lookup path) (y.lookup path)
  := by
  induction path generalizing x y with
  | nil => exact .some h
  | cons key path ih =>
    apply Option.rel_bind (rel_get?_of_alike hx h key)
    intro own hown value _ halike
    apply ih (hx.get? hown) halike

/-! ### The laws of likeness -/

/-- Likeness is an equivalence relation on the trees without `nan`, and these are the only trees that
are like themselves.  Trees that are alike have something under the same paths, and what they have
there is alike. -/
theorem alike_congruence (hx : x.Ordered) :
  (x.alike x = true ↔ x.NanFree)
    ∧ (x.alike y = true → y.alike x = true)
    ∧ (x.alike y = true → y.alike z = true → x.alike z = true)
    ∧ (x.alike y = true →
      ∀ path, Option.Rel (fun a b => a.alike b = true) (x.lookup path) (y.lookup path))
  := ⟨alike_self_iff hx, alike_symm hx, alike_trans, rel_lookup_of_alike hx⟩

/-- A list of numbers, and a variable that is one. -/
def numbers (ids : List Tree) (minor : Tree) : Tree :=
  .mapping [("ids", .sequence ids), ("vars", .mapping [("minor", minor)])]

/-- An integer between two binary64 numbers, a boolean, the negative zero and a small integer. -/
def mixedNumbers : Tree :=
  numbers [.integer 9007199254740993, .bool true, .float (.ofBits 0x8000000000000000)] (.integer 8)

/-- The float that this integer is rounded to, and values that are like the others. -/
def roundedNumbers : Tree :=
  numbers [.float (.ofInt 9007199254740992), .integer 1, .bool false] (.float (.ofInt 8))

/-- The integer that this float is, and values that are like the others once more. -/
def wholeNumbers : Tree :=
  numbers [.integer 9007199254740992, .float (.ofInt 1), .integer 0] (.integer 8)

theorem nanFree_mixedNumbers :
  mixedNumbers.NanFree
  := by
  have hscalar : ∀ x ∈ [Tree.integer 9007199254740993, .bool true,
      .float (.ofBits 0x8000000000000000), .integer 8], x.NanFree := by
    simp only [List.forall_mem_cons]
    refine ⟨?_, ?_, ?_, ?_, List.forall_mem_nil _⟩
    all_goals
      apply (nanFree_iff_of_isScalar rfl).2
      decide +kernel
  simp only [List.forall_mem_cons] at hscalar
  simp [mixedNumbers, numbers, nanFree_mapping_iff, nanFree_sequence_iff, hscalar]

/-- The two large integers are like the same float, and so they are like each other. -/
theorem alike_congruence_mixedNumbers :
  mixedNumbers.Ordered ∧ mixedNumbers.NanFree
    ∧ mixedNumbers.alike mixedNumbers = true
    ∧ roundedNumbers.alike mixedNumbers = true
    ∧ mixedNumbers.alike wholeNumbers = true
    ∧ ∀ path, Option.Rel (fun a b => a.alike b = true) (mixedNumbers.lookup path)
      (roundedNumbers.lookup path)
  := by
  have hordered : mixedNumbers.Ordered := by decide +kernel
  have hrounded : mixedNumbers.alike roundedNumbers = true := by decide +kernel
  have hwhole : roundedNumbers.alike wholeNumbers = true := by decide +kernel
  obtain ⟨hself, hsymm, htrans, hlookup⟩ := alike_congruence hordered
  exact ⟨hordered, nanFree_mixedNumbers, hself.2 nanFree_mixedNumbers, hsymm hrounded,
    htrans hrounded hwhole, hlookup hrounded⟩

end LayeredConfig.Tree
