import LayeredConfig.Binary64.Rounding
import LayeredConfig.Tree.Basic

/-!
# Comparing values of lists

Integers, floats and booleans are compared as numbers.  `Tree.alike` is the equality by which
duplicates in a merged list are found: it holds of numbers with equal values, and goes into
sequences and mappings.  `Tree.compareScalars?` is the order by which a merged list of strings
or numbers is sorted.
-/

namespace LayeredConfig.Tree

/-- The number that an integer, a float or a boolean stands for. -/
def number? : Tree → Option Binary64
  | .integer i => some (.ofInt i.toInt)
  | .float x => some x
  | .bool b => some (.ofInt (if b then 1 else 0))
  | _ => none

/-- Whether two values that are neither both sequences nor both mappings count as equal. -/
def alikeScalars (x y : Tree) : Bool :=
  match x.number?, y.number? with
  | some a, some b => a.same b
  | _, _ => decide (x = y)

mutual

/-- Whether two values count as equal: numbers by value, sequences item by item, and mappings
key by key. -/
def alike : Tree → Tree → Bool
  | .sequence xs, .sequence ys => alikeItems xs ys
  | .mapping xs, .mapping ys => xs.length == ys.length && alikeEntries xs ys
  | x, y => alikeScalars x y

/-- Whether two lists count as equal item by item. -/
def alikeItems : List Tree → List Tree → Bool
  | [], [] => true
  | x :: xs, y :: ys => alike x y && alikeItems xs ys
  | _, _ => false

/-- Whether every entry has a counterpart of the same key that counts as equal. -/
def alikeEntries : List (String × Tree) → Entries Tree → Bool
  | [], _ => true
  | (key, x) :: rest, ys =>
    (match Entries.find? key ys with
      | some y => alike x y
      | none => false) && alikeEntries rest ys

end

/-- The order of two strings or two numbers; a number that is not comparable with the other
counts as equal to it.  `none` for all other pairs. -/
def compareScalars? : Tree → Tree → Option Ordering
  | .string a, .string b => some (compare a b)
  | .integer i, .integer j => some (compare i.toInt j.toInt)
  | x, y =>
    match x.number?, y.number? with
    | some a, some b => some ((a.compare? b).getD .eq)
    | _, _ => none

/-- Whether the first value of a merged list decides that the list is sorted. -/
def leadsOrder : Tree → Bool
  | .string _ | .integer _ | .float _ => true
  | _ => false

theorem alikeItems_iff {xs ys : List Tree} :
  alikeItems xs ys = true
    ↔ xs.length = ys.length ∧ ∀ p ∈ xs.zip ys, alike p.1 p.2 = true
  := by
  induction xs generalizing ys with
  | nil => cases ys <;> simp [alikeItems]
  | cons x xs ih =>
    cases ys with
    | nil => simp [alikeItems]
    | cons y ys => simp [alikeItems, ih, and_left_comm]

theorem alikeEntries_iff {xs : List (String × Tree)} {ys : Entries Tree} :
  alikeEntries xs ys = true
    ↔ ∀ e ∈ xs, ∃ y, Entries.find? e.1 ys = some y ∧ alike e.2 y = true
  := by
  induction xs with
  | nil => simp [alikeEntries]
  | cons e xs ih =>
    obtain ⟨key, x⟩ := e
    cases h : Entries.find? key ys <;> simp [alikeEntries, h, ih]

end LayeredConfig.Tree
