/-!
# Writing JSON texts

A `Document` is a JSON value to be written; `spelt` parts are put out as they are.  `compact`
writes no white space, `pretty` one element or member a line with two spaces for each level.
-/

namespace QuoteProver.Json

/-- A JSON value to be written. -/
inductive Document where
  | null
  | bool (b : Bool)
  | number (n : Int)
  | string (text : String)
  | spelt (json : String)
  | array (items : List Document)
  | object (members : List (String × Document))

namespace Document

/-- A character inside a string: marks, backslashes and control characters are escaped. -/
def escapeChar (c : Char) : List Char :=
  if c = '"' then ['\\', '"']
  else if c = '\\' then ['\\', '\\']
  else if c = '\x08' then ['\\', 'b']
  else if c = '\x0c' then ['\\', 'f']
  else if c = '\n' then ['\\', 'n']
  else if c = '\r' then ['\\', 'r']
  else if c = '\t' then ['\\', 't']
  else if c.toNat < 0x20 then
    ['\\', 'u', '0', '0', Nat.digitChar (c.toNat / 16), Nat.digitChar (c.toNat % 16)]
  else [c]

/-- A string literal. -/
def quoted (text : String) : String :=
  String.ofList ('"' :: text.toList.flatMap escapeChar ++ ['"'])

mutual

/-- The text of a document without white space. -/
def compact : Document → String
  | .null => "null"
  | .bool b => if b then "true" else "false"
  | .number n => toString n
  | .string text => quoted text
  | .spelt json => json
  | .array items => "[" ++ ",".intercalate (compactItems items) ++ "]"
  | .object members => "\x7b" ++ ",".intercalate (compactMembers members) ++ "\x7d"

/-- The texts of the elements of an array. -/
def compactItems : List Document → List String
  | [] => []
  | item :: items => item.compact :: compactItems items

/-- The texts of the members of an object. -/
def compactMembers : List (String × Document) → List String
  | [] => []
  | (name, value) :: members =>
    (quoted name ++ ":" ++ value.compact) :: compactMembers members

end

/-- The start of a line at a level. -/
def indentation (level : Nat) : String := "\n" ++ String.ofList (List.replicate (2 * level) ' ')

/-- Lines at a level between an opening and a closing sign. -/
def lines (level : Nat) (opening closing : String) : List String → String
  | [] => opening ++ closing
  | items =>
    opening ++ ",".intercalate (items.map (indentation (level + 1) ++ ·)) ++ indentation level ++
      closing

mutual

/-- The text of a document at a level, one element or member a line. -/
def prettyAt (level : Nat) : Document → String
  | .null => "null"
  | .bool b => if b then "true" else "false"
  | .number n => toString n
  | .string text => quoted text
  | .spelt json => json
  | .array items => lines level "[" "]" (prettyItems (level + 1) items)
  | .object members => lines level "\x7b" "\x7d" (prettyMembers (level + 1) members)

/-- The texts of the elements of an array. -/
def prettyItems (level : Nat) : List Document → List String
  | [] => []
  | item :: items => item.prettyAt level :: prettyItems level items

/-- The texts of the members of an object. -/
def prettyMembers (level : Nat) : List (String × Document) → List String
  | [] => []
  | (name, value) :: members =>
    (quoted name ++ ": " ++ value.prettyAt level) :: prettyMembers level members

end

/-- The text of a document, one element or member a line. -/
def pretty (d : Document) : String := d.prettyAt 0

end Document

end QuoteProver.Json
