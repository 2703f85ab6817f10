import LayeredConfig.Binary64.Basic
import LayeredConfig.Entries
import LayeredConfig.WordInteger

/-!
# JSON values

`Json` is the type of JSON values.  A number is an integer that fits a word or a finite float,
and the two are kept apart.  The members of an object are kept in ascending order of their
keys: `Json.Ordered` says that they are at every depth, which can be decided.
-/

namespace LayeredConfig

/-- A JSON number. -/
inductive JsonNumber where
  | integer (i : WordInteger)
  | float (x : Binary64) (finite : x.isFinite = true)
  deriving DecidableEq

/-- A JSON value. -/
inductive Json where
  | null
  | bool (b : Bool)
  | number (n : JsonNumber)
  | string (s : String)
  | array (items : List Json)
  | object (members : List (String × Json))

namespace JsonNumber

/-- A float as a JSON number, if it is finite. -/
def ofBinary64? (x : Binary64) : Option JsonNumber :=
  if h : x.isFinite = true then some (.float x h) else none

end JsonNumber

namespace Json

instance : Inhabited Json := ⟨null⟩

/-- Induction on JSON values: a property holds of an array if it holds of the items, and of
an object if it holds of the values. -/
theorem induction {motive : Json → Prop}
    (null : motive .null)
    (bool : ∀ b, motive (.bool b))
    (number : ∀ n, motive (.number n))
    (string : ∀ s, motive (.string s))
    (array : ∀ items, (∀ x ∈ items, motive x) → motive (.array items))
    (object : ∀ members, (∀ e ∈ members, motive e.2) → motive (.object members))
    (j : Json) :
  motive j
  :=
  @Json.rec motive (fun items => ∀ x ∈ items, motive x) (fun members => ∀ e ∈ members, motive e.2)
    (fun e => motive e.2) null bool number string array object
    (fun _ h => nomatch h) (fun _ _ hx hrest => List.forall_mem_cons.2 ⟨hx, hrest⟩)
    (fun _ h => nomatch h) (fun _ _ he hrest => List.forall_mem_cons.2 ⟨he, hrest⟩)
    (fun _ _ hj => hj) j

/-- The members of an object. -/
def object? : Json → Option (Entries Json)
  | .object members => some members
  | _ => none

/-- The items of an array. -/
def array? : Json → Option (List Json)
  | .array items => some items
  | _ => none

/-- The text of a string. -/
def string? : Json → Option String
  | .string s => some s
  | _ => none

/-- The value of a boolean. -/
def bool? : Json → Option Bool
  | .bool b => some b
  | _ => none

/-- The value of an integer. -/
def integer? : Json → Option WordInteger
  | .number (.integer i) => some i
  | _ => none

/-- The value under a key of an object. -/
def get? (j : Json) (key : String) : Option Json := j.object?.bind (Entries.find? key)

mutual

/-- The keys of every object in a JSON value ascend strictly. -/
def Ordered : Json → Prop
  | .array items => OrderedItems items
  | .object members => Entries.Ascending members ∧ OrderedMembers members
  | _ => True

/-- Every JSON value of a list is ordered. -/
def OrderedItems : List Json → Prop
  | [] => True
  | j :: rest => j.Ordered ∧ OrderedItems rest

/-- Every value of a list of members is ordered. -/
def OrderedMembers : List (String × Json) → Prop
  | [] => True
  | (_, j) :: rest => j.Ordered ∧ OrderedMembers rest

end

mutual

/-- Decides whether a JSON value is ordered. -/
def decideOrdered : (j : Json) → Decidable j.Ordered
  | .null | .bool _ | .number _ | .string _ => .isTrue trivial
  | .array items => decideOrderedItems items
  | .object members =>
    @instDecidableAnd _ _ (inferInstanceAs (Decidable (Entries.Ascending members)))
      (decideOrderedMembers members)

/-- Decides whether the JSON values of a list are ordered. -/
def decideOrderedItems : (items : List Json) → Decidable (OrderedItems items)
  | [] => .isTrue trivial
  | j :: rest => @instDecidableAnd _ _ j.decideOrdered (decideOrderedItems rest)

/-- Decides whether the values of a list of members are ordered. -/
def decideOrderedMembers : (members : List (String × Json)) → Decidable (OrderedMembers members)
  | [] => .isTrue trivial
  | (_, j) :: rest => @instDecidableAnd _ _ j.decideOrdered (decideOrderedMembers rest)

end

instance : DecidablePred Ordered := decideOrdered

theorem orderedItems_iff {items : List Json} :
  OrderedItems items ↔ ∀ j ∈ items, j.Ordered
  := by
  induction items with
  | nil => simp [OrderedItems]
  | cons j rest ih => simp [OrderedItems, ih]

theorem orderedMembers_iff {members : List (String × Json)} :
  OrderedMembers members ↔ ∀ e ∈ members, e.2.Ordered
  := by
  induction members with
  | nil => simp [OrderedMembers]
  | cons e rest ih => simp [OrderedMembers, ih]

theorem ordered_array_iff {items : List Json} :
  (array items).Ordered ↔ ∀ j ∈ items, j.Ordered
  := by
  rw [Ordered, orderedItems_iff]

theorem ordered_object_iff {members : List (String × Json)} :
  (object members).Ordered ↔ Entries.Ascending members ∧ ∀ e ∈ members, e.2.Ordered
  := by
  rw [Ordered, orderedMembers_iff]

end Json

end LayeredConfig
