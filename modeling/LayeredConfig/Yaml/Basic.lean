import LayeredConfig.Binary64.Basic
import LayeredConfig.WordInteger

/-!
# YAML values

`Yaml` is the type of YAML values.  A mapping is the list of its entries in document order,
its keys are values themselves, and any value can stand under a tag.  `Yaml.same` is equality
of values, for which the order of entries does not count; `Yaml.ofEntries` is a mapping in
which no key is repeated, and `Yaml.hasDistinctKeys` says that none is at any depth.
-/

namespace LayeredConfig

/-- A YAML value. -/
inductive Yaml where
  | null
  | bool (b : Bool)
  | integer (i : WordInteger)
  | float (x : Binary64)
  | string (s : String)
  | sequence (items : List Yaml)
  | mapping (entries : List (Yaml × Yaml))
  /-- A value under a tag; `tag` is without the mark in front of it. -/
  | tagged (tag : String) (value : Yaml)

namespace Yaml

instance : Inhabited Yaml := ⟨null⟩

/-- The text of a string. -/
def string? : Yaml → Option String
  | .string s => some s
  | _ => none

/-- A tag without the mark in front of it; the mark alone is a tag of its own. -/
def tagName (written : String) : String :=
  match written.toList with
  | '!' :: c :: rest => .ofList (c :: rest)
  | _ => written

/-- Induction on YAML values: a property holds of a sequence if it holds of the items, of a
mapping if it holds of the keys and values, and under a tag if it holds without. -/
theorem induction {motive : Yaml → Prop}
    (null : motive .null)
    (bool : ∀ b, motive (.bool b))
    (integer : ∀ i, motive (.integer i))
    (float : ∀ x, motive (.float x))
    (string : ∀ s, motive (.string s))
    (sequence : ∀ items, (∀ y ∈ items, motive y) → motive (.sequence items))
    (mapping : ∀ entries, (∀ e ∈ entries, motive e.1 ∧ motive e.2) → motive (.mapping entries))
    (tagged : ∀ tag value, motive value → motive (.tagged tag value))
    (y : Yaml) :
  motive y
  :=
  @Yaml.rec motive (fun items => ∀ y ∈ items, motive y)
    (fun entries => ∀ e ∈ entries, motive e.1 ∧ motive e.2)
    (fun e => motive e.1 ∧ motive e.2) null bool integer float string sequence mapping tagged
    (fun _ h => nomatch h) (fun _ _ hy hrest => List.forall_mem_cons.2 ⟨hy, hrest⟩)
    (fun _ h => nomatch h) (fun _ _ he hrest => List.forall_mem_cons.2 ⟨he, hrest⟩)
    (fun _ _ hk hv => ⟨hk, hv⟩) y

/-! ### Equality -/

/-- Equality of floats as values: the zeros are equal, and so is `nan` to itself. -/
def sameFloat (x y : Binary64) : Bool := decide (x = y) || x.same y

mutual

/-- Whether two values are equal; an integer differs from every float. -/
def same : Yaml → Yaml → Bool
  | .null, .null => true
  | .bool a, .bool b => a == b
  | .integer i, .integer j => decide (i = j)
  | .float x, .float y => sameFloat x y
  | .string s, .string t => s == t
  | .sequence xs, .sequence ys => sameItems xs ys
  | .mapping xs, .mapping ys => xs.length == ys.length && sameEntries xs ys
  | .tagged t x, .tagged u y => t == u && same x y
  | _, _ => false

/-- Whether the items of two sequences are equal. -/
def sameItems : List Yaml → List Yaml → Bool
  | [], [] => true
  | x :: xs, y :: ys => same x y && sameItems xs ys
  | _, _ => false

/-- Whether every entry of the first list is equal to one of the second. -/
def sameEntries : List (Yaml × Yaml) → List (Yaml × Yaml) → Bool
  | [], _ => true
  | (k, x) :: xs, ys => (ys.any fun e => same k e.1 && same x e.2) && sameEntries xs ys

end

/-! ### Entries -/

/-- Puts a value under a key into the entries of a mapping.  A key that is there keeps its
place; a new one goes to the end. -/
def insert (key value : Yaml) : List (Yaml × Yaml) → List (Yaml × Yaml)
  | [] => [(key, value)]
  | (k, v) :: rest => if same k key then (k, value) :: rest else (k, v) :: insert key value rest

/-- The mapping with the given entries, a later value under a key replacing an earlier one. -/
def ofEntries (entries : List (Yaml × Yaml)) : Yaml :=
  .mapping (entries.foldl (fun es e => insert e.1 e.2 es) [])

mutual

/-- Whether no mapping in a value repeats a key. -/
def hasDistinctKeys : Yaml → Bool
  | .sequence items => distinctItems items
  | .mapping entries => distinctEntries entries
  | .tagged _ value => value.hasDistinctKeys
  | _ => true

/-- Whether no mapping in the items of a sequence repeats a key. -/
def distinctItems : List Yaml → Bool
  | [] => true
  | y :: rest => y.hasDistinctKeys && distinctItems rest

/-- Whether the entries of a mapping repeat no key, and no mapping in them does. -/
def distinctEntries : List (Yaml × Yaml) → Bool
  | [] => true
  | (key, value) :: rest =>
    key.hasDistinctKeys && value.hasDistinctKeys && !(rest.any fun e => same key e.1)
      && distinctEntries rest

end

end Yaml

end LayeredConfig
