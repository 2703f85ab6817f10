import LayeredConfig.Binary64.Basic
import LayeredConfig.Entries

/-!
# Configuration trees

`Tree` is the type of configuration values: scalars, sequences, and mappings from strings to
trees.  The entries of a mapping are kept in ascending order of their keys: `Tree.Ordered`
says that they are at every depth, which can be decided.  `get?` finds the value under one key,
`lookup` the value under a path of keys; both find nothing in a tree that is not a mapping.
`isTruthy` is the reading of a tree as a condition.  `Tree.induction` is induction on trees with
an hypothesis for each item and each entry.
-/

namespace LayeredConfig

/-- A configuration value. -/
inductive Tree where
  | null
  | bool (b : Bool)
  | integer (i : Int64)
  | float (x : Binary64)
  | string (s : String)
  | bytes (bytes : List UInt8)
  | sequence (items : List Tree)
  | mapping (entries : List (String × Tree))

namespace Tree

instance : Inhabited Tree := ⟨null⟩

/-- Induction on trees: a property holds of a sequence if it holds of the items, and of a
mapping if it holds of the values. -/
theorem induction {motive : Tree → Prop}
    (null : motive .null)
    (bool : ∀ b, motive (.bool b))
    (integer : ∀ i, motive (.integer i))
    (float : ∀ x, motive (.float x))
    (string : ∀ s, motive (.string s))
    (bytes : ∀ bs, motive (.bytes bs))
    (sequence : ∀ items, (∀ x ∈ items, motive x) → motive (.sequence items))
    (mapping : ∀ entries, (∀ e ∈ entries, motive e.2) → motive (.mapping entries))
    (t : Tree) :
  motive t
  :=
  @Tree.rec motive (fun items => ∀ x ∈ items, motive x) (fun entries => ∀ e ∈ entries, motive e.2)
    (fun e => motive e.2) null bool integer float string bytes sequence mapping
    (fun _ h => nomatch h) (fun _ _ hx hrest => List.forall_mem_cons.2 ⟨hx, hrest⟩)
    (fun _ h => nomatch h) (fun _ _ he hrest => List.forall_mem_cons.2 ⟨he, hrest⟩)
    (fun _ _ ht => ht) t

/-! ### Equality -/

mutual

/-- Whether two trees are the same. -/
def equal : Tree → Tree → Bool
  | .null, .null => true
  | .bool a, .bool b => a == b
  | .integer i, .integer j => i == j
  | .float x, .float y => decide (x = y)
  | .string s, .string t => s == t
  | .bytes as, .bytes bs => as == bs
  | .sequence xs, .sequence ys => equalItems xs ys
  | .mapping xs, .mapping ys => equalEntries xs ys
  | _, _ => false

/-- Whether two lists of trees are the same. -/
def equalItems : List Tree → List Tree → Bool
  | [], [] => true
  | x :: xs, y :: ys => equal x y && equalItems xs ys
  | _, _ => false

/-- Whether two lists of entries are the same. -/
def equalEntries : List (String × Tree) → List (String × Tree) → Bool
  | [], [] => true
  | (k, x) :: xs, (l, y) :: ys => k == l && equal x y && equalEntries xs ys
  | _, _ => false

end

mutual

theorem equal_iff : (x y : Tree) → (equal x y = true ↔ x = y)
  | .null, y => by cases y <;> simp [equal]
  | .bool _, y => by cases y <;> simp [equal]
  | .integer _, y => by cases y <;> simp [equal]
  | .float _, y => by cases y <;> simp [equal]
  | .string _, y => by cases y <;> simp [equal]
  | .bytes _, y => by cases y <;> simp [equal]
  | .sequence xs, y => by cases y <;> simp [equal, equalItems_iff xs]
  | .mapping xs, y => by cases y <;> simp [equal, equalEntries_iff xs]

theorem equalItems_iff : (xs ys : List Tree) → (equalItems xs ys = true ↔ xs = ys)
  | [], ys => by cases ys <;> simp [equalItems]
  | x :: xs, ys => by cases ys <;> simp [equalItems, equal_iff x, equalItems_iff xs]

theorem equalEntries_iff :
    (xs ys : List (String × Tree)) → (equalEntries xs ys = true ↔ xs = ys)
  | [], ys => by cases ys <;> simp [equalEntries]
  | (k, x) :: xs, ys => by
    cases ys <;> simp [equalEntries, equal_iff x, equalEntries_iff xs, Prod.ext_iff, and_assoc]

end

instance : DecidableEq Tree := fun x y => decidable_of_iff _ (equal_iff x y)

/-! ### Shape -/

/-- The name of the kind of a tree. -/
def kind : Tree → String
  | .null => "null"
  | .bool _ => "bool"
  | .integer _ => "integer"
  | .float _ => "float"
  | .string _ => "string"
  | .bytes _ => "bytes"
  | .sequence _ => "sequence"
  | .mapping _ => "mapping"

/-- Whether a tree is neither a sequence nor a mapping. -/
def isScalar : Tree → Bool
  | .sequence _ | .mapping _ => false
  | _ => true

/-- Whether a tree is the null value. -/
def isNull : Tree → Bool
  | .null => true
  | _ => false

/-- Whether a tree counts as true: it is neither null, false, zero nor empty. -/
def isTruthy : Tree → Bool
  | .null => false
  | .bool b => b
  | .integer i => i != 0
  | .float x => !x.isZero
  | .string s => !s.isEmpty
  | .bytes bs => !bs.isEmpty
  | .sequence items => !items.isEmpty
  | .mapping entries => !entries.isEmpty

/-- The text of a string. -/
def string? : Tree → Option String
  | .string s => some s
  | _ => none

theorem bind_string?_eq_some_iff {t : Option Tree} {s : String} :
  t.bind string? = some s ↔ t = some (.string s)
  := by
  cases t with
  | none => simp
  | some t => cases t <;> simp [string?]

/-- The value of an integer. -/
def integer? : Tree → Option Int64
  | .integer i => some i
  | _ => none

/-- The value of a boolean. -/
def bool? : Tree → Option Bool
  | .bool b => some b
  | _ => none

/-- The items of a sequence. -/
def sequence? : Tree → Option (List Tree)
  | .sequence items => some items
  | _ => none

/-- The entries of a mapping. -/
def mapping? : Tree → Option (Entries Tree)
  | .mapping entries => some entries
  | _ => none

/-- The items of a sequence, and none for any other tree. -/
def items : Tree → List Tree
  | .sequence items => items
  | _ => []

/-! ### Lookup -/

/-- The value under a key of a mapping. -/
def get? (t : Tree) (key : String) : Option Tree :=
  t.mapping?.bind (Entries.find? key)

/-- The value under a key of a mapping, null where there is none. -/
def getOrNull (t : Tree) (key : String) : Tree := (t.get? key).getD .null

/-- The value under a path of keys. -/
def lookup (t : Tree) : List String → Option Tree
  | [] => some t
  | key :: path => (t.get? key).bind fun child => child.lookup path

@[simp]
theorem get?_mapping (entries : List (String × Tree)) (key : String) :
  (mapping entries).get? key = Entries.find? key entries
  := rfl

theorem mapping?_eq_some_iff {t : Tree} {entries : Entries Tree} :
  t.mapping? = some entries ↔ t = .mapping entries
  := by
  cases t <;> simp [mapping?]

/-- Only a mapping has something under a key. -/
theorem exists_mapping_of_get? {t child : Tree} {key : String} (h : t.get? key = some child) :
  ∃ entries : Entries Tree, t = .mapping entries
  := by
  cases t with
  | mapping entries => exact ⟨entries, rfl⟩
  | _ => cases h

theorem lookup_append (t : Tree) (p q : List String) :
  t.lookup (p ++ q) = (t.lookup p).bind fun child => child.lookup q
  := by
  induction p generalizing t with
  | nil => rfl
  | cons key p ih => cases h : t.get? key <;> simp [lookup, h, ih]

/-! ### Ordered trees -/

mutual

/-- The keys of every mapping in a tree ascend strictly. -/
def Ordered : Tree → Prop
  | .sequence items => OrderedItems items
  | .mapping entries => Entries.Ascending entries ∧ OrderedEntries entries
  | _ => True

/-- Every tree of a list is ordered. -/
def OrderedItems : List Tree → Prop
  | [] => True
  | t :: rest => t.Ordered ∧ OrderedItems rest

/-- Every value of a list of entries is ordered. -/
def OrderedEntries : List (String × Tree) → Prop
  | [] => True
  | (_, t) :: rest => t.Ordered ∧ OrderedEntries rest

end

mutual

/-- Decides whether a tree is ordered. -/
def decideOrdered : (t : Tree) → Decidable t.Ordered
  | .null | .bool _ | .integer _ | .float _ | .string _ | .bytes _ => .isTrue trivial
  | .sequence items => decideOrderedItems items
  | .mapping entries =>
    @instDecidableAnd _ _ (inferInstanceAs (Decidable (Entries.Ascending entries)))
      (decideOrderedEntries entries)

/-- Decides whether the trees of a list are ordered. -/
def decideOrderedItems : (items : List Tree) → Decidable (OrderedItems items)
  | [] => .isTrue trivial
  | t :: rest => @instDecidableAnd _ _ t.decideOrdered (decideOrderedItems rest)

/-- Decides whether the values of a list of entries are ordered. -/
def decideOrderedEntries : (entries : List (String × Tree)) → Decidable (OrderedEntries entries)
  | [] => .isTrue trivial
  | (_, t) :: rest => @instDecidableAnd _ _ t.decideOrdered (decideOrderedEntries rest)

end

instance : DecidablePred Ordered := decideOrdered

theorem orderedItems_iff {items : List Tree} :
  OrderedItems items ↔ ∀ t ∈ items, t.Ordered
  := by
  induction items with
  | nil => simp [OrderedItems]
  | cons t rest ih => simp [OrderedItems, ih]

theorem orderedEntries_iff {entries : List (String × Tree)} :
  OrderedEntries entries ↔ ∀ e ∈ entries, e.2.Ordered
  := by
  induction entries with
  | nil => simp [OrderedEntries]
  | cons e rest ih => simp [OrderedEntries, ih]

theorem ordered_sequence_iff {items : List Tree} :
  (sequence items).Ordered ↔ ∀ t ∈ items, t.Ordered
  := by
  rw [Ordered, orderedItems_iff]

theorem ordered_mapping_iff {entries : List (String × Tree)} :
  (mapping entries).Ordered ↔ Entries.Ascending entries ∧ ∀ e ∈ entries, e.2.Ordered
  := by
  rw [Ordered, orderedEntries_iff]

/-- What is found under a key of an ordered tree is ordered. -/
theorem Ordered.get? {t child : Tree} {key : String} (h : t.Ordered)
    (hc : t.get? key = some child) :
  child.Ordered
  := by
  cases t with
  | mapping entries => exact (ordered_mapping_iff.1 h).2 _ (Entries.mem_of_find? hc)
  | _ => simp [Tree.get?, mapping?] at hc

/-- What is found at the end of a path of an ordered tree is ordered. -/
theorem Ordered.lookup {t child : Tree} {path : List String} (h : t.Ordered)
    (hc : t.lookup path = some child) :
  child.Ordered
  := by
  induction path generalizing t with
  | nil =>
    cases hc
    apply h
  | cons key path ih =>
    obtain ⟨next, hn, hrest⟩ := Option.bind_eq_some_iff.1 hc
    apply ih (h.get? hn) hrest

end Tree

end LayeredConfig
