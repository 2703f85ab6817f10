import LayeredConfig.Layering.Comparison
import Mathlib.Data.List.Perm.Subperm

/-!
# Likeness

Likeness is transitive (`alike_trans`).  A tree that is like a string is that string.  If an
ordered tree is like a mapping then it is a mapping with the same keys (`perm_keys_of_alike`), and
what it has under a key is like what the other has there (`exists_get?_of_alike`); that no key of the
other is missed is a matter of counting, since only the keys on the left are looked up.
-/

namespace LayeredConfig

/-! ### Keys -/

namespace Entries

variable {α β : Type}

/-- As many entries with keys among those of others have the same keys. -/
theorem Ascending.perm_keys_of_length_eq {xs : Entries α} {ys : Entries β} (hx : xs.Ascending)
    (hl : xs.length = ys.length) (h : ∀ key ∈ xs.keys, key ∈ ys.keys) :
  xs.keys.Perm ys.keys
  := by
  apply (List.subperm_of_subset hx.nodup_keys h).perm_of_length_le
  simp [keys, hl]

end Entries

namespace Tree

variable {x y z : Tree}

/-! ### Shape -/

theorem alike_of_isScalar (hx : x.isScalar = true) :
  x.alike y = x.alikeScalars y
  := by
  cases x <;> first | rfl | cases hx

theorem alike_of_isScalar_right (hy : y.isScalar = true) :
  x.alike y = x.alikeScalars y
  := by
  cases x with
  | sequence xs => cases y <;> first | rfl | cases hy
  | mapping xs => cases y <;> first | rfl | cases hy
  | _ => exact alike_of_isScalar rfl

theorem alike_sequence_iff {xs : List Tree} :
  (sequence xs).alike y = true ↔ ∃ ys, y = .sequence ys ∧ alikeItems xs ys = true
  := by
  cases y <;> simp [alike, alikeScalars, number?]

theorem alike_mapping_iff {xs : Entries Tree} :
  (mapping xs).alike y = true
    ↔ ∃ ys : Entries Tree, y = .mapping ys ∧ xs.length = ys.length
      ∧ ∀ e ∈ xs, ∃ value, ys.find? e.1 = some value ∧ e.2.alike value = true
  := by
  cases y <;> simp [alike, alikeScalars, number?, alikeEntries_iff]

/-- A tree that is like a value that is neither a number nor a sequence nor a mapping is that
value. -/
theorem eq_of_alike_of_number?_eq_none (hy : y.isScalar = true) (hnumber : y.number? = none)
    (h : x.alike y = true) :
  x = y
  := by
  rw [alike_of_isScalar_right hy, alikeScalars, hnumber] at h
  cases hx : x.number? <;> simpa [hx] using h

theorem eq_of_alike_string {s : String} (h : x.alike (.string s) = true) :
  x = .string s
  := eq_of_alike_of_number?_eq_none rfl rfl h

/-! ### Transitivity -/

theorem isScalar_of_number? {a : Binary64} (h : x.number? = some a) :
  x.isScalar = true
  := by
  cases x <;> first | rfl | cases h

theorem alikeScalars_iff :
  x.alikeScalars y = true
    ↔ x = y ∧ x.number? = none
      ∨ ∃ a b, x.number? = some a ∧ y.number? = some b ∧ a.same b = true
  := by
  cases hx : x.number? <;> cases hy : y.number? <;> simp only [alikeScalars, hx, hy]
  case none.some a | some.none a =>
    have hne : x ≠ y := by
      rintro rfl
      cases hx.symm.trans hy
    simp [hne]
  all_goals simp

theorem alikeScalars_trans (hx : x.isScalar = true) (hxy : x.alikeScalars y = true)
    (hyz : y.alike z = true) :
  x.alike z = true
  := by
  obtain ⟨rfl, -⟩ | ⟨a, b, ha, hb, hab⟩ := alikeScalars_iff.1 hxy
  · exact hyz
  · rw [alike_of_isScalar (isScalar_of_number? hb)] at hyz
    obtain ⟨-, hnone⟩ | ⟨b', c, hb', hc, hbc⟩ := alikeScalars_iff.1 hyz
    · cases hb.symm.trans hnone
    · cases hb.symm.trans hb'
      rw [alike_of_isScalar hx]
      apply alikeScalars_iff.2 (.inr ⟨a, c, ha, hc, Binary64.same_trans hab hbc⟩)

theorem alikeItems_trans {xs ys zs : List Tree}
    (ih : ∀ x ∈ xs, ∀ y z : Tree, x.alike y = true → y.alike z = true → x.alike z = true)
    (hxy : alikeItems xs ys = true) (hyz : alikeItems ys zs = true) :
  alikeItems xs zs = true
  := by
  induction xs generalizing ys zs with
  | nil =>
    cases ys with
    | nil => exact hyz
    | cons y ys => cases hxy
  | cons x xs ihxs =>
    cases ys with
    | nil => cases hxy
    | cons y ys =>
      cases zs with
      | nil => cases hyz
      | cons z zs =>
        rw [alikeItems, Bool.and_eq_true] at hxy hyz ⊢
        constructor
        · apply ih x List.mem_cons_self y z hxy.1 hyz.1
        · apply ihxs (fun x hx => ih x (List.mem_cons_of_mem _ hx)) hxy.2 hyz.2

theorem alike_trans (hxy : x.alike y = true) (hyz : y.alike z = true) :
  x.alike z = true
  := by
  induction x using Tree.induction generalizing y z with
  | sequence xs ih =>
    obtain ⟨ys, rfl, hxy⟩ := alike_sequence_iff.1 hxy
    obtain ⟨zs, rfl, hyz⟩ := alike_sequence_iff.1 hyz
    apply alike_sequence_iff.2 ⟨zs, rfl, alikeItems_trans (fun x hx _ _ => ih x hx) hxy hyz⟩
  | mapping xs ih =>
    obtain ⟨ys, rfl, hlxy, hxy⟩ := alike_mapping_iff.1 hxy
    obtain ⟨zs, rfl, hlyz, hyz⟩ := alike_mapping_iff.1 hyz
    refine alike_mapping_iff.2 ⟨zs, rfl, hlxy.trans hlyz, fun e he => ?_⟩
    obtain ⟨middle, hmiddle, hem⟩ := hxy e he
    obtain ⟨last, hlast, hml⟩ := hyz _ (Entries.mem_of_find? hmiddle)
    use last, hlast
    apply ih e he hem hml
  | _ => exact alikeScalars_trans rfl hxy hyz

/-! ### Looking up -/

/-- An ordered mapping has the same keys as a mapping that it is like. -/
theorem perm_keys_of_alike {xs ys : Entries Tree} (hx : (mapping xs).Ordered)
    (h : (mapping xs).alike (.mapping ys) = true) :
  xs.keys.Perm ys.keys
  := by
  obtain ⟨_, ⟨⟩, hl, hxy⟩ := alike_mapping_iff.1 h
  apply (ordered_mapping_iff.1 hx).1.perm_keys_of_length_eq hl
  intro key hkey
  obtain ⟨e, he, rfl⟩ := List.mem_map.1 hkey
  obtain ⟨value, hfound, -⟩ := hxy e he
  apply Entries.mem_keys_iff.2 ⟨value, hfound⟩

/-- What the right one of two trees that are alike has under a key, the left one has too. -/
theorem exists_get?_of_alike (hx : x.Ordered) (h : x.alike y = true) {key : String} {value : Tree}
    (hvalue : y.get? key = some value) :
  ∃ own, x.get? key = some own ∧ own.alike value = true
  := by
  cases x with
  | mapping xs =>
    obtain ⟨ys, rfl, -, hxy⟩ := alike_mapping_iff.1 h
    have hkey : key ∈ Entries.keys xs :=
      (perm_keys_of_alike hx h).mem_iff.2 (Entries.mem_keys_iff.2 ⟨value, hvalue⟩)
    obtain ⟨own, hown⟩ := Entries.mem_keys_iff.1 hkey
    use own, hown
    obtain ⟨value', hfound, halike⟩ := hxy _ (Entries.mem_of_find? hown)
    cases hvalue.symm.trans hfound
    exact halike
  | sequence xs =>
    obtain ⟨ys, rfl, -⟩ := alike_sequence_iff.1 h
    cases hvalue
  | _ =>
    rw [alike_of_isScalar rfl] at h
    obtain ⟨rfl, -⟩ | ⟨a, b, -, hb, -⟩ := alikeScalars_iff.1 h
    · cases hvalue
    · cases y <;> first | cases hvalue | cases hb

end Tree

end LayeredConfig
