import LayeredConfig.Proofs.Exchange.Json
import LayeredConfig.Proofs.Layering.Failure
import LayeredConfig.Tree.Yaml
import Mathlib.Data.List.Perm.Basic

/-!
# Reading YAML values

A YAML value has a tree exactly if the datum that it is offered as has one, and it is the same
(`Yaml.ofYaml_eq_ok_iff`), although one reader looks at a key that the other has read before: a key
is read as a string only if it is one (`Yaml.ofDatum_eq_string_iff`).  A YAML value states a JSON
value if it is the same with the members of objects in any order (`Json.StatedBy`), and is read as
the tree of what it states (`Json.StatedBy.ofYaml`).
-/

namespace LayeredConfig

/-! ### Steps of the readers -/

namespace Tree

variable {read : Entries Tree}

theorem ofDatumItems_cons_eq_ok_iff {d : Datum} {rest : List Datum} {items : List Tree} :
  ofDatumItems (d :: rest) = .ok items
    ↔ ∃ t, ofDatum d = .ok t ∧ ∃ more, ofDatumItems rest = .ok more ∧ t :: more = items
  := by
  rw [ofDatumItems]
  cases ofDatum d with
  | error e => simp
  | ok t => simp [Except.map_eq_ok_iff]

theorem ofYamlItems_cons_eq_ok_iff {y : Yaml} {rest : List Yaml} {items : List Tree} :
  ofYamlItems (y :: rest) = .ok items
    ↔ ∃ t, ofYaml y = .ok t ∧ ∃ more, ofYamlItems rest = .ok more ∧ t :: more = items
  := by
  rw [ofYamlItems]
  cases ofYaml y with
  | error e => simp
  | ok t => simp [Except.map_eq_ok_iff]

/-- An entry is read if its key is read as a string and its value is read. -/
theorem ofDatumEntries_cons_eq_ok_iff {key value : Datum} {rest : List (Datum × Datum)}
    {entries : Entries Tree} :
  ofDatumEntries ((key, value) :: rest) read = .ok entries
    ↔ ∃ k, ofDatum key = .ok (.string k) ∧ ∃ t, ofDatum value = .ok t
      ∧ ofDatumEntries rest (read.insert k t) = .ok entries
  := by
  rw [ofDatumEntries]
  cases ofDatum key with
  | error e => simp
  | ok name =>
    cases name with
    | string k => cases ofDatum value <;> simp
    | _ => simp

/-- An entry is read if its key is a string and its value is read. -/
theorem ofYamlEntries_cons_eq_ok_iff {key value : Yaml} {rest : List (Yaml × Yaml)}
    {entries : Entries Tree} :
  ofYamlEntries ((key, value) :: rest) read = .ok entries
    ↔ ∃ k, key = .string k ∧ ∃ t, ofYaml value = .ok t
      ∧ ofYamlEntries rest (read.insert k t) = .ok entries
  := by
  cases key with
  | string k =>
    rw [ofYamlEntries]
    cases ofYaml value <;> simp
  | _ => simp [ofYamlEntries]

/-- A node is an entry if its key is the string and its value has the tree. -/
def IsEntry (node : Yaml × Yaml) (entry : String × Tree) : Prop :=
  node.1 = .string entry.1 ∧ ofYaml node.2 = .ok entry.2

/-- Nodes are read if each is an entry; the entries are put in one after the other. -/
theorem ofYamlEntries_eq_ok_iff_forall₂ {nodes : List (Yaml × Yaml)} {result : Entries Tree} :
  ofYamlEntries nodes read = .ok result
    ↔ ∃ entries : Entries Tree, List.Forall₂ IsEntry nodes entries
      ∧ entries.foldl (fun acc e => acc.insert e.1 e.2) read = result
  := by
  induction nodes generalizing read with
  | nil => simp [ofYamlEntries]
  | cons node rest ih =>
    obtain ⟨key, value⟩ := node
    rw [ofYamlEntries_cons_eq_ok_iff]
    constructor
    · rintro ⟨k, hkey, t, hvalue, h⟩
      obtain ⟨entries, hentries, hresult⟩ := ih.1 h
      use (k, t) :: entries, .cons ⟨hkey, hvalue⟩ hentries, hresult
    · rintro ⟨_, hentries, hresult⟩
      obtain _ | ⟨⟨hkey, hvalue⟩, hrest⟩ := hentries
      exact ⟨_, hkey, _, hvalue, ih.2 ⟨_, hrest, hresult⟩⟩

end Tree

/-! ### YAML values as data -/

namespace Yaml

/-- A key is read as a string only if it is that string. -/
theorem ofDatum_eq_string_iff {key : Yaml} {k : String} :
  Tree.ofDatum key.toDatum = .ok (.string k) ↔ key = .string k
  := by
  cases key with
  | integer i =>
    rw [toDatum, Json.ofDatum_integerDatum]
    by_cases h : i.val < 2 ^ 63
    · simp [Tree.ofWordInteger_of_lt h]
    · simp [Tree.ofWordInteger_of_not_lt h]
  | sequence items => simp [toDatum, Tree.ofDatum, Except.map_eq_ok_iff]
  | mapping entries => simp [toDatum, Tree.ofDatum, Except.map_eq_ok_iff]
  | _ => simp [toDatum, Tree.ofDatum]

theorem ofYamlItems_eq_ok_iff {items : List Yaml}
    (h : ∀ y ∈ items, ∀ t, Tree.ofYaml y = .ok t ↔ Tree.ofDatum y.toDatum = .ok t)
    (ts : List Tree) :
  Tree.ofYamlItems items = .ok ts ↔ Tree.ofDatumItems (toDatumItems items) = .ok ts
  := by
  induction items generalizing ts with
  | nil => simp [toDatumItems, Tree.ofYamlItems, Tree.ofDatumItems]
  | cons y rest ih =>
    obtain ⟨hy, hrest⟩ := List.forall_mem_cons.1 h
    rw [toDatumItems, Tree.ofYamlItems_cons_eq_ok_iff, Tree.ofDatumItems_cons_eq_ok_iff]
    simp only [hy, ih hrest]

theorem ofYamlEntries_eq_ok_iff {entries : List (Yaml × Yaml)}
    (h : ∀ e ∈ entries, ∀ t, Tree.ofYaml e.2 = .ok t ↔ Tree.ofDatum e.2.toDatum = .ok t)
    (read result : Entries Tree) :
  Tree.ofYamlEntries entries read = .ok result
    ↔ Tree.ofDatumEntries (toDatumEntries entries) read = .ok result
  := by
  induction entries generalizing read with
  | nil => simp [toDatumEntries, Tree.ofYamlEntries, Tree.ofDatumEntries]
  | cons e rest ih =>
    obtain ⟨key, value⟩ := e
    obtain ⟨hvalue, hrest⟩ := List.forall_mem_cons.1 h
    rw [toDatumEntries, Tree.ofYamlEntries_cons_eq_ok_iff, Tree.ofDatumEntries_cons_eq_ok_iff]
    simp only [ofDatum_eq_string_iff, hvalue, ih hrest]

/-- A YAML value and the datum that it is offered as have the same tree, if any. -/
theorem ofYaml_eq_ok_iff (y : Yaml) (t : Tree) :
  Tree.ofYaml y = .ok t ↔ Tree.ofDatum y.toDatum = .ok t
  := by
  induction y using Yaml.induction generalizing t with
  | integer i => simp [toDatum, Json.ofDatum_integerDatum, Tree.ofYaml]
  | sequence items ih =>
    rw [toDatum, Tree.ofYaml, Tree.ofDatum, Except.map_eq_ok_iff, Except.map_eq_ok_iff]
    simp only [ofYamlItems_eq_ok_iff ih]
  | mapping entries ih =>
    rw [toDatum, Tree.ofYaml, Tree.ofDatum, Except.map_eq_ok_iff, Except.map_eq_ok_iff]
    simp only [ofYamlEntries_eq_ok_iff fun e he => (ih e he).2]
  | _ => simp [toDatum, Tree.ofYaml, Tree.ofDatum]

end Yaml

/-! ### JSON values as YAML values -/

namespace Json

mutual

/-- A YAML value states a JSON value if it is the same with the members of objects in any order. -/
inductive StatedBy : Json → Yaml → Prop
  | null : StatedBy .null .null
  | bool (b : Bool) : StatedBy (.bool b) (.bool b)
  | integer (i : WordInteger) : StatedBy (.number (.integer i)) (.integer i)
  | float (x : Binary64) (finite : x.isFinite = true) :
    StatedBy (.number (.float x finite)) (.float x)
  | string (s : String) : StatedBy (.string s) (.string s)
  | array {items : List Json} {nodes : List Yaml} (h : ItemsStatedBy items nodes) :
    StatedBy (.array items) (.sequence nodes)
  | object {members : List (String × Json)} {entries sorted : List (Yaml × Yaml)}
    (h : MembersStatedBy members sorted) (hp : entries.Perm sorted) :
    StatedBy (.object members) (.mapping entries)

/-- The items of a sequence state those of an array. -/
inductive ItemsStatedBy : List Json → List Yaml → Prop
  | nil : ItemsStatedBy [] []
  | cons {j : Json} {y : Yaml} {items : List Json} {nodes : List Yaml} (h : StatedBy j y)
    (hrest : ItemsStatedBy items nodes) : ItemsStatedBy (j :: items) (y :: nodes)

/-- Entries with strings as keys state the members of an object, in the same order. -/
inductive MembersStatedBy : List (String × Json) → List (Yaml × Yaml) → Prop
  | nil : MembersStatedBy [] []
  | cons {key : String} {j : Json} {y : Yaml} {members : List (String × Json)}
    {entries : List (Yaml × Yaml)} (h : StatedBy j y) (hrest : MembersStatedBy members entries) :
    MembersStatedBy ((key, j) :: members) ((.string key, y) :: entries)

end

mutual

/-- A JSON value as a YAML value with the same order. -/
def toYaml : Json → Yaml
  | .null => .null
  | .bool b => .bool b
  | .number (.integer i) => .integer i
  | .number (.float x _) => .float x
  | .string s => .string s
  | .array items => .sequence (toYamlItems items)
  | .object members => .mapping (toYamlMembers members)

/-- The items of an array as YAML values. -/
def toYamlItems : List Json → List Yaml
  | [] => []
  | j :: rest => j.toYaml :: toYamlItems rest

/-- The members of an object as entries with strings as keys. -/
def toYamlMembers : List (String × Json) → List (Yaml × Yaml)
  | [] => []
  | (key, j) :: rest => (.string key, j.toYaml) :: toYamlMembers rest

end

mutual

theorem statedBy_toYaml : (j : Json) → j.StatedBy j.toYaml
  | .null => .null
  | .bool b => .bool b
  | .number (.integer i) => .integer i
  | .number (.float x finite) => .float x finite
  | .string s => .string s
  | .array items => .array (itemsStatedBy_toYamlItems items)
  | .object members => .object (membersStatedBy_toYamlMembers members) .rfl

theorem itemsStatedBy_toYamlItems :
    (items : List Json) → ItemsStatedBy items (toYamlItems items)
  | [] => .nil
  | j :: rest => .cons (statedBy_toYaml j) (itemsStatedBy_toYamlItems rest)

theorem membersStatedBy_toYamlMembers :
    (members : List (String × Json)) → MembersStatedBy members (toYamlMembers members)
  | [] => .nil
  | (_, j) :: rest => .cons (statedBy_toYaml j) (membersStatedBy_toYamlMembers rest)

end

mutual

/-- A YAML value is read as the tree of the JSON value that it states. -/
theorem StatedBy.ofYaml : {j : Json} → {y : Yaml} → j.StatedBy y → j.Ordered →
    Tree.ofYaml y = .ok (Tree.ofJson j)
  | _, _, .null, _ => rfl
  | _, _, .bool _, _ => rfl
  | _, _, .integer i, _ => Tree.ofYamlNumber_integer i
  | _, _, .float _ _, _ => rfl
  | _, _, .string _, _ => rfl
  | .array items, .sequence nodes, .array h, hj => by
    rw [Ordered] at hj
    rw [Tree.ofYaml, ItemsStatedBy.ofYamlItems h hj, Tree.ofJson]
    rfl
  | .object members, .mapping entries, .object h hp, hj => by
    rw [Ordered] at hj
    obtain ⟨hascending, hmembers⟩ := hj
    have hsorted := MembersStatedBy.forall₂_isEntry h hmembers
    -- the entries are those of the members, in the order in which they are stated
    obtain ⟨read, hread, hperm⟩ := List.perm_comp_forall₂ hp hsorted
    have hresult := Entries.ofList_of_perm hperm (hascending.map Tree.ofJson)
    rw [Tree.ofYaml, Tree.ofYamlEntries_eq_ok_iff_forall₂.2 ⟨read, hread, hresult⟩, Tree.ofJson,
      Tree.ofJsonMembers_eq_map]
    rfl

theorem ItemsStatedBy.ofYamlItems : {items : List Json} → {nodes : List Yaml} →
    ItemsStatedBy items nodes → OrderedItems items →
    Tree.ofYamlItems nodes = .ok (Tree.ofJsonItems items)
  | _, _, .nil, _ => rfl
  | _, _, .cons h hrest, hitems => by
    rw [OrderedItems] at hitems
    obtain ⟨hj, hitems⟩ := hitems
    apply Tree.ofYamlItems_cons_eq_ok_iff.2
    exact ⟨_, StatedBy.ofYaml h hj, _, ItemsStatedBy.ofYamlItems hrest hitems, rfl⟩

theorem MembersStatedBy.forall₂_isEntry : {members : List (String × Json)} →
    {nodes : List (Yaml × Yaml)} → MembersStatedBy members nodes → OrderedMembers members →
    List.Forall₂ Tree.IsEntry nodes (members.map fun e => (e.1, Tree.ofJson e.2))
  | _, _, .nil, _ => .nil
  | _, _, .cons h hrest, hmembers => by
    rw [OrderedMembers] at hmembers
    obtain ⟨hj, hmembers⟩ := hmembers
    exact .cons ⟨rfl, StatedBy.ofYaml h hj⟩ (MembersStatedBy.forall₂_isEntry hrest hmembers)

end

end Json

end LayeredConfig
