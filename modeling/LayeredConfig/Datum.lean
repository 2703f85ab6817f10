import LayeredConfig.Binary64.Rounding
import LayeredConfig.Json.Basic
import LayeredConfig.Tree.Description

/-!
# The data model of sources and sinks

A `Datum` is a value as a data format offers it to its reader, or as a writer offers it to a
data format: the kinds are those that formats tell apart, which are more than the kinds of
trees.  `Tree.ofDatum` reads a tree, and says with a `DatumRejection` why there is none;
`Tree.toDatum` writes one.

`Json.toDatum` and `Json.ofDatum?` are the same for JSON values.  How JSON values are offered and
built is decided by the serializer libraries and not here: the two functions follow the documented
behaviour of these libraries.
-/

namespace LayeredConfig

/-- A value on its way between a data format and a program. -/
inductive Datum where
  /-- The value without content. -/
  | unit
  /-- An optional value that is not there. -/
  | absent
  /-- An optional value that is there. -/
  | present (d : Datum)
  /-- A value inside a wrapper of its own type. -/
  | wrapped (d : Datum)
  /-- A value under one of several names. -/
  | variant (name : String) (d : Datum)
  | bool (b : Bool)
  | int64 (i : Int64)
  | uint64 (n : UInt64)
  /-- An integer offered in 128 bits. -/
  | int128 (i : Int)
  /-- A number offered in 32 bits; `x` is rounded when it is read. -/
  | binary32 (x : Binary64)
  | binary64 (x : Binary64)
  | char (c : Char)
  | string (s : String)
  | bytes (bytes : List UInt8)
  | sequence (items : List Datum)
  | mapping (entries : List (Datum × Datum))
  /-- The source fails here with a message. -/
  | failure (message : String)

/-- Why a datum is not read as a tree. -/
inductive DatumRejection where
  /-- A wrapper is not accepted. -/
  | wrapped
  /-- A value under a name is not accepted. -/
  | variant
  /-- An integer in 128 bits is not accepted. -/
  | int128 (i : Int)
  /-- The key of a mapping is not a string. -/
  | nonStringKey (key : Tree)
  /-- The source fails. -/
  | failure (message : String)
  deriving DecidableEq

namespace DatumRejection

/-- The wording for a kind of datum that is not accepted. -/
def unexpected (what : String) : String :=
  "invalid type: " ++ what ++ ", expected a scalar, sequence or string-keyed mapping"

/-- The wording of a rejection. -/
def message : DatumRejection → String
  | .wrapped => unexpected "newtype struct"
  | .variant => unexpected "enum"
  | .int128 i => unexpected ("integer `" ++ toString i ++ "` as i128")
  | .nonStringKey key => "Mapping key must be a string, got " ++ key.detail
  | .failure message => message

end DatumRejection

/-! ### Trees -/

namespace Tree

/-- An integer that fits a word: the integer itself if it fits a signed word, and the nearest
float if not. -/
def ofWordInteger (i : WordInteger) : Tree :=
  match i.toInt64? with
  | some w => .integer w
  | none => .float (.ofInt i.val)

mutual

/-- The tree that a datum offers.  The key of an entry is read and checked before its value,
and a later value under a key replaces an earlier one. -/
def ofDatum : Datum → Except DatumRejection Tree
  | .unit | .absent => .ok .null
  | .present d => ofDatum d
  | .wrapped _ => .error .wrapped
  | .variant _ _ => .error .variant
  | .bool b => .ok (.bool b)
  | .int64 i => .ok (.integer i)
  | .uint64 n => .ok (ofWordInteger (.ofUInt64 n))
  | .int128 i => .error (.int128 i)
  | .binary32 x => .ok (.float x.toBinary32)
  | .binary64 x => .ok (.float x)
  | .char c => .ok (.string (.ofList [c]))
  | .string s => .ok (.string s)
  | .bytes bs => .ok (.bytes bs)
  | .sequence items => (ofDatumItems items).map .sequence
  | .mapping entries => (ofDatumEntries entries []).map .mapping
  | .failure message => .error (.failure message)

/-- The trees that the items of a sequence offer. -/
def ofDatumItems : List Datum → Except DatumRejection (List Tree)
  | [] => .ok []
  | d :: rest =>
    match ofDatum d with
    | .error e => .error e
    | .ok t => (ofDatumItems rest).map (t :: ·)

/-- The entries that a mapping offers, put in after those read before. -/
def ofDatumEntries : List (Datum × Datum) → Entries Tree → Except DatumRejection (Entries Tree)
  | [], read => .ok read
  | (key, value) :: rest, read =>
    match ofDatum key with
    | .error e => .error e
    | .ok (.string k) =>
      match ofDatum value with
      | .error e => .error e
      | .ok t => ofDatumEntries rest (read.insert k t)
    | .ok other => .error (.nonStringKey other)

end

mutual

/-- The datum that a tree is offered as. -/
def toDatum : Tree → Datum
  | .null => .unit
  | .bool b => .bool b
  | .integer i => .int64 i
  | .float x => .binary64 x
  | .string s => .string s
  | .bytes bs => .bytes bs
  | .sequence items => .sequence (toDatumItems items)
  | .mapping entries => .mapping (toDatumEntries entries)

/-- The data that the items of a sequence are offered as. -/
def toDatumItems : List Tree → List Datum
  | [] => []
  | t :: rest => t.toDatum :: toDatumItems rest

/-- The data that the entries of a mapping are offered as. -/
def toDatumEntries : List (String × Tree) → List (Datum × Datum)
  | [] => []
  | (key, t) :: rest => (.string key, t.toDatum) :: toDatumEntries rest

end

end Tree

/-! ### JSON values -/

namespace Json

/-- A float as a JSON value; what is not finite becomes null. -/
def ofBinary64 (x : Binary64) : Json :=
  match JsonNumber.ofBinary64? x with
  | some n => .number n
  | none => .null

theorem ofBinary64_of_isFinite {x : Binary64} (h : x.isFinite = true) :
  ofBinary64 x = .number (.float x h)
  := by
  have hnumber : JsonNumber.ofBinary64? x = some (.float x h) := dif_pos h
  rw [ofBinary64, hnumber]

theorem ofBinary64_of_not_isFinite {x : Binary64} (h : ¬x.isFinite = true) :
  ofBinary64 x = .null
  := by
  have hnumber : JsonNumber.ofBinary64? x = none := dif_neg h
  rw [ofBinary64, hnumber]

/-- Bytes as a JSON value: the array of their values. -/
def ofBytes (bytes : List UInt8) : Json :=
  .array (bytes.map fun b => .number (.integer (.ofUInt64 b.toUInt64)))

/-- The datum that an integer is offered as: a signed word if it is negative, and an unsigned
one if not. -/
def integerDatum (i : WordInteger) : Datum :=
  if i.val < 0 then .int64 (.ofInt i.val) else .uint64 (.ofNat i.val.toNat)

mutual

/-- The datum that a JSON value is offered as, by the documented behaviour of the serializer
library: a number by the kind that holds it, and a member under its key. -/
def toDatum : Json → Datum
  | .null => .unit
  | .bool b => .bool b
  | .number (.integer i) => integerDatum i
  | .number (.float x _) => .binary64 x
  | .string s => .string s
  | .array items => .sequence (toDatumItems items)
  | .object members => .mapping (toDatumMembers members)

/-- The data that the items of an array are offered as. -/
def toDatumItems : List Json → List Datum
  | [] => []
  | j :: rest => j.toDatum :: toDatumItems rest

/-- The data that the members of an object are offered as. -/
def toDatumMembers : List (String × Json) → List (Datum × Datum)
  | [] => []
  | (key, j) :: rest => (.string key, j.toDatum) :: toDatumMembers rest

end

mutual

/-- The JSON value that a datum becomes, by the documented behaviour of the serializer library:
bytes become an array of numbers, and floats that are not finite become null.  There is none for
an integer in 128 bits that fits no word, a key that is not a string, or a source that fails. -/
def ofDatum? : Datum → Option Json
  | .unit | .absent => some .null
  | .present d | .wrapped d => ofDatum? d
  | .variant name d => (ofDatum? d).map fun j => .object [(name, j)]
  | .bool b => some (.bool b)
  | .int64 i => some (.number (.integer (.ofInt64 i)))
  | .uint64 n => some (.number (.integer (.ofUInt64 n)))
  | .int128 i => (WordInteger.ofInt? i).map fun i => .number (.integer i)
  | .binary32 x => some (ofBinary64 x.toBinary32)
  | .binary64 x => some (ofBinary64 x)
  | .char c => some (.string (.ofList [c]))
  | .string s => some (.string s)
  | .bytes bs => some (ofBytes bs)
  | .sequence items => (ofDatumItems? items).map .array
  | .mapping entries => (ofDatumEntries? entries []).map .object
  | .failure _ => none

/-- The JSON values that the items of a sequence become. -/
def ofDatumItems? : List Datum → Option (List Json)
  | [] => some []
  | d :: rest =>
    match ofDatum? d with
    | none => none
    | some j => (ofDatumItems? rest).map (j :: ·)

/-- The members that the entries of a mapping become, put in after those written before. -/
def ofDatumEntries? : List (Datum × Datum) → Entries Json → Option (Entries Json)
  | [], written => some written
  | (.string key, d) :: rest, written =>
    match ofDatum? d with
    | none => none
    | some j => ofDatumEntries? rest (written.insert key j)
  | _ :: _, _ => none

end

end Json

end LayeredConfig
