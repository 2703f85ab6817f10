import LayeredConfig.Datum

/-!
# Trees and JSON values

`Tree.ofJson` is the tree of a JSON value: an integer beyond the signed words becomes the
nearest float.  `Tree.toJson` is the JSON value of a tree: bytes become an array of their
values, and floats that are not finite become null.
-/

namespace LayeredConfig.Tree

mutual

/-- The tree of a JSON value. -/
def ofJson : Json → Tree
  | .null => .null
  | .bool b => .bool b
  | .number (.integer i) => ofWordInteger i
  | .number (.float x _) => .float x
  | .string s => .string s
  | .array items => .sequence (ofJsonItems items)
  | .object members => .mapping (ofJsonMembers members)

/-- The trees of the items of an array. -/
def ofJsonItems : List Json → List Tree
  | [] => []
  | j :: rest => ofJson j :: ofJsonItems rest

/-- The entries of the members of an object. -/
def ofJsonMembers : List (String × Json) → List (String × Tree)
  | [] => []
  | (key, j) :: rest => (key, ofJson j) :: ofJsonMembers rest

end

mutual

/-- The JSON value of a tree. -/
def toJson : Tree → Json
  | .null => .null
  | .bool b => .bool b
  | .integer i => .number (.integer (.ofInt64 i))
  | .float x => .ofBinary64 x
  | .string s => .string s
  | .bytes bs => .ofBytes bs
  | .sequence items => .array (toJsonItems items)
  | .mapping entries => .object (toJsonEntries entries)

/-- The JSON values of the items of a sequence. -/
def toJsonItems : List Tree → List Json
  | [] => []
  | t :: rest => t.toJson :: toJsonItems rest

/-- The members of the entries of a mapping. -/
def toJsonEntries : List (String × Tree) → List (String × Json)
  | [] => []
  | (key, t) :: rest => (key, t.toJson) :: toJsonEntries rest

end

theorem ofJsonItems_eq_map (items : List Json) :
  ofJsonItems items = items.map ofJson
  := by
  induction items with
  | nil => rfl
  | cons j rest ih => rw [ofJsonItems, ih, List.map_cons]

theorem ofJsonMembers_eq_map (members : List (String × Json)) :
  ofJsonMembers members = members.map fun e => (e.1, ofJson e.2)
  := by
  induction members with
  | nil => rfl
  | cons e rest ih => rw [ofJsonMembers, ih, List.map_cons]

theorem toJsonItems_eq_map (items : List Tree) :
  toJsonItems items = items.map toJson
  := by
  induction items with
  | nil => rfl
  | cons t rest ih => rw [toJsonItems, ih, List.map_cons]

theorem toJsonEntries_eq_map (entries : List (String × Tree)) :
  toJsonEntries entries = entries.map fun e => (e.1, e.2.toJson)
  := by
  induction entries with
  | nil => rfl
  | cons e rest ih => rw [toJsonEntries, ih, List.map_cons]

end LayeredConfig.Tree
