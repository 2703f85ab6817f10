import LayeredConfig.Proofs.Layering.Sequence

/-!
# Integers in merged lists

Every integer of the base is in a merged list, and every integer of the overlay, or a value that is
like it (`integers_kept_of_mergeOver`).  Below `2 ^ 53` this is a value at the place of the integer.
From there on integers are told apart when a list is sorted but not when duplicates are looked for,
and so a merged list can lack one (`union_loses_integer`).
-/

namespace LayeredConfig.Tree

open Layering

/-- An integer of absolute value less than `2 ^ 53` is like no other integer. -/
theorem integer_eq_of_alike {i j : Int64} (hi : i.toInt.natAbs < 2 ^ 53)
    (h : (integer j).alike (.integer i) = true) :
  j = i
  := by
  have hplace : j.toInt * Binary64.unitsPerOne = i.toInt * Binary64.unitsPerOne :=
    Option.some.inj (place?_of_alike_integer hi h)
  apply Int64.toInt_inj.1
  apply Int.eq_of_mul_eq_mul_right (Int.natCast_ne_zero.2 Binary64.unitsPerOne_ne_zero) hplace

/-- A merged list has the integers of the base, and of each integer of the overlay the integer
itself or a value that is like it, which is at the place of the integer if this has an absolute
value less than `2 ^ 53`. -/
theorem integers_kept_of_mergeOver {overlay base merged : List Tree}
    (h : (sequence overlay).mergeOver (.sequence base) = .ok (.sequence merged)) (i : Int64) :
  (.integer i ∈ base → .integer i ∈ merged)
    ∧ (.integer i ∈ overlay → ∃ x ∈ merged, x = .integer i ∨ x.alike (.integer i) = true)
    ∧ (i.toInt.natAbs < 2 ^ 53 →
      (.integer i ∈ base ∨ .integer i ∈ overlay →
        ∃ x ∈ merged, x.place? = some (i.toInt * Binary64.unitsPerOne))
      ∧ ∀ j, (integer j).alike (.integer i) = true → j = i)
  := by
  rw [mergeOver] at h
  obtain ⟨sorted, hsorted, heq⟩ := Except.map_eq_ok_iff.1 h
  obtain rfl := Tree.sequence.inj heq
  have hmem : ∀ x, x ∈ union overlay base → x ∈ sorted :=
    fun x hx => (perm_of_inOrder hsorted).mem_iff.2 hx
  have hbase : .integer i ∈ base → .integer i ∈ sorted :=
    fun hi => hmem _ (subset_union overlay base hi)
  have hoverlay : .integer i ∈ overlay → ∃ x ∈ sorted, x = .integer i ∨ x.alike (.integer i) = true := by
    intro hi
    obtain ⟨x, hx, hlike⟩ := exists_mem_union hi base
    use x, hmem x hx
  refine ⟨hbase, hoverlay, ?_⟩
  intro hsmall
  refine ⟨?_, fun j hj => integer_eq_of_alike hsmall hj⟩
  rintro (hi | hi)
  · use .integer i, hbase hi
    rfl
  · obtain ⟨x, hx, rfl | hlike⟩ := hoverlay hi
    · use .integer i, hx
      rfl
    · use x, hx, place?_of_alike_integer hsmall hlike

/-- An integer of the overlay is in the merged list as a float, which is at the same place. -/
theorem integers_kept_of_mergeOver_seven :
  (sequence [.integer 7]).mergeOver (.sequence [.float (.ofInt 7), .bool true])
      = .ok (.sequence [.bool true, .float (.ofInt 7)])
    ∧ ∃ x ∈ [Tree.bool true, .float (.ofInt 7)],
      x.place? = some ((7 : Int64).toInt * Binary64.unitsPerOne)
  := by
  have hunion : union [Tree.integer 7] [.float (.ofInt 7), .bool true]
      = [.float (.ofInt 7), .bool true] := by decide +kernel
  have hcomparable : ∀ x ∈ [Tree.float (.ofInt 7), .bool true],
      ((Tree.float (.ofInt 7)).compareScalars? x).isSome = true := by decide +kernel
  have hsort : [Tree.float (.ofInt 7), .bool true].mergeSort notAfter
      = [.bool true, .float (.ofInt 7)] := by
    have hafter : notAfter (.float (.ofInt 7)) (.bool true) = false := by decide +kernel
    simp [List.mergeSort, hafter]
  have hmerge : (sequence [.integer 7]).mergeOver (.sequence [.float (.ofInt 7), .bool true])
      = .ok (.sequence [.bool true, .float (.ofInt 7)]) := by
    rw [mergeOver, hunion, inOrder_of_comparable rfl rfl hcomparable, hsort, Except.map]
  obtain ⟨-, -, hsmall⟩ := integers_kept_of_mergeOver hmerge 7
  use hmerge
  apply (hsmall (by decide)).1 (.inr List.mem_cons_self)

/-- The integer after `2 ^ 53` is lost beside `2 ^ 53`: nothing in the merged list is at its place.
The two are alike, since they have the same binary64 number, although they are not of equal rank
when a list is sorted. -/
theorem union_loses_integer :
  (sequence [.integer 9007199254740993]).mergeOver (.sequence [.integer 9007199254740992])
      = .ok (.sequence [.integer 9007199254740992])
    ∧ (∀ x ∈ [Tree.integer 9007199254740992],
      x.place? ≠ some ((9007199254740993 : Int64).toInt * Binary64.unitsPerOne))
    ∧ (integer 9007199254740992).alike (.integer 9007199254740993) = true
    ∧ (integer 9007199254740992).compareScalars? (.integer 9007199254740993) = some .lt
  := by
  have hlike : (integer 9007199254740992).alike (.integer 9007199254740993) = true := by
    decide +kernel
  refine ⟨?_, by decide +kernel, hlike, by decide +kernel⟩
  rw [mergeOver, union_cons, adjoin_of_hasLike ⟨_, List.mem_singleton.2 rfl, hlike⟩]
  simp [union, inOrder, leadsOrder, compareScalars?, Except.map]

end LayeredConfig.Tree
