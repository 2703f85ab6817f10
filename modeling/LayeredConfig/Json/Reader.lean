import LayeredConfig.Json.Literal
import LayeredConfig.Json.Number

/-!
# Reading JSON texts

`Json.parse?` reads a text that holds exactly one JSON value, with white space around it.  A
key that is repeated in an object keeps its last value, and arrays and objects nest at most
`Json.maxDepth` deep.
-/

namespace LayeredConfig.Json

/-- The greatest depth to which arrays and objects nest. -/
def maxDepth : Nat := 127

/-- The text behind its leading white space. -/
def skipSpace (text : List Char) : List Char :=
  text.dropWhile fun c => c == ' ' || c == '\t' || c == '\n' || c == '\r'

/-- Reads one item or more with commas between them, up to a closing character.  An item that
takes nothing off the text ends the reading. -/
def separated? {α : Type} (item : List Char → Option (α × List Char)) (close : Char)
    (text : List Char) : Option (List α × List Char) :=
  match item text with
  | none => none
  | some (x, rest) =>
    match skipSpace rest with
    | [] => none
    | c :: rest =>
      if c = close then some ([x], rest)
      else if c = ',' then
        if rest.length < text.length then
          (separated? item close rest).map fun (xs, rest) => (x :: xs, rest)
        else none
      else none
termination_by text.length

/-- Reads items with commas between them, up to a closing character. -/
def listed? {α : Type} (item : List Char → Option (α × List Char)) (close : Char)
    (text : List Char) : Option (List α × List Char) :=
  match skipSpace text with
  | [] => none
  | c :: rest => if c = close then some ([], rest) else separated? item close (c :: rest)

/-- Reads a member of an object, whose value is read by `value`. -/
def member? (value : List Char → Option (Json × List Char)) (text : List Char) :
    Option ((String × Json) × List Char) :=
  match skipSpace text with
  | '"' :: rest => do
    let (key, rest) ← JsonLiteral.read? rest
    match skipSpace rest with
    | ':' :: rest =>
      let (j, rest) ← value rest
      return ((key, j), rest)
    | _ => none
  | _ => none

/-- Reads a value in which arrays and objects nest at most `depth` deep. -/
def value? (depth : Nat) (text : List Char) : Option (Json × List Char) :=
  match skipSpace text with
  | 'n' :: 'u' :: 'l' :: 'l' :: rest => some (.null, rest)
  | 't' :: 'r' :: 'u' :: 'e' :: rest => some (.bool true, rest)
  | 'f' :: 'a' :: 'l' :: 's' :: 'e' :: rest => some (.bool false, rest)
  | '"' :: rest => (JsonLiteral.read? rest).map fun (s, rest) => (.string s, rest)
  | '[' :: rest =>
    match depth with
    | 0 => none
    | depth + 1 => (listed? (value? depth) ']' rest).map fun (items, rest) => (.array items, rest)
  | '\x7b' :: rest =>
    match depth with
    | 0 => none
    | depth + 1 =>
      (listed? (member? (value? depth)) '\x7d' rest).map fun (members, rest) =>
        (.object (Entries.ofList members), rest)
  | rest => do
    let (numeral, rest) ← JsonNumeral.read? rest
    return (.number (← numeral.value?), rest)

/-- The JSON value that a text holds. -/
def parse? (text : String) : Option Json :=
  match value? maxDepth text.toList with
  | some (j, rest) => if (skipSpace rest).isEmpty then some j else none
  | none => none

end LayeredConfig.Json
