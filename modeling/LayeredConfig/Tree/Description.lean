import LayeredConfig.Binary64.Layout
import LayeredConfig.Text.Quoted
import LayeredConfig.Tree.Basic

/-!
# Describing trees

Two texts of a tree appear in messages.  `Tree.detail` writes the whole tree, each value
inside the name of its kind; `Tree.summary` writes a string or a number behind the name of its
kind, and only the kind of anything else.
-/

namespace LayeredConfig

/-- Numbers as they stand inside a detailed text: an exponent from `1e16` on and below
`1e-4`, and a mark on whole numbers. -/
def NumberLayout.detailed : NumberLayout where
  positional := some (-4, 15)
  wholeMark := ".0"
  tie := .up
  nan := "NaN"
  infinity := "inf"

/-- Numbers without exponents and without a mark on whole numbers. -/
def NumberLayout.plain : NumberLayout where
  positional := none
  wholeMark := ""
  tie := .up
  nan := "NaN"
  infinity := "inf"

namespace Tree

/-- Parts between brackets, with commas between them. -/
def enclosed (left right : String) (parts : List String) : String :=
  left ++ ", ".intercalate parts ++ right

mutual

/-- The whole tree, each value inside the name of its kind. -/
def detail : Tree → String
  | .null => "Null"
  | .bool b => "Bool(" ++ (if b then "true" else "false") ++ ")"
  | .integer i => "Integer(" ++ toString i.toInt ++ ")"
  | .float x => "Float(" ++ NumberLayout.detailed.text x ++ ")"
  | .string s => "String(" ++ Text.quoted s ++ ")"
  | .bytes bs => "Bytes" ++ enclosed "([" "])" (bs.map fun b => toString b.toNat)
  | .sequence items => "Sequence" ++ enclosed "([" "])" (detailItems items)
  | .mapping entries => "Mapping" ++ enclosed "(\x7b" "\x7d)" (detailEntries entries)

/-- The details of the items of a sequence. -/
def detailItems : List Tree → List String
  | [] => []
  | t :: rest => t.detail :: detailItems rest

/-- The keys and details of the entries of a mapping. -/
def detailEntries : List (String × Tree) → List String
  | [] => []
  | (key, t) :: rest => (Text.quoted key ++ ": " ++ t.detail) :: detailEntries rest

end

/-- A string or number behind the name of its kind, and only the kind of another tree. -/
def summary : Tree → String
  | .string s => "string " ++ Text.quoted s
  | .integer i => "integer " ++ toString i.toInt
  | .float x => "float " ++ NumberLayout.plain.text x
  | t => t.kind

end Tree

end LayeredConfig
