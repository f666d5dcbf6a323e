import QuoteProver.Decimal.Numeral
import QuoteProver.Decimal.Shortest
import QuoteProver.Json.Node

/-!
# Configuration values

A `Value` is what a configuration file or an environment variable sets.  Fields of a configuration
take a value of another type where it makes sense: `text?` and `word?` say which.
-/

namespace QuoteProver.Config

/-- What a configuration source sets. -/
inductive Value where
  | nothing
  | bool (b : Bool)
  | integer (n : Int)
  | float (x : Decimal.Binary64)
  | text (s : String)
  | list (items : List Value)
  | table (entries : List (String × Value))

namespace Value

/-! ## Reading -/

/-- A text with ASCII letters in lower case. -/
def lower (s : String) : String := s.map Char.toLower

/-- The value of an environment variable: a truth value, an integer of 64 bits or a floating point
number if it is spelt like one, and a text otherwise. -/
def ofVariable (s : String) : Value :=
  if lower s = "true" then bool true
  else if lower s = "false" then bool false
  else match Decimal.integer? s.toList with
    | some n =>
      if -(Nat.pow 2 63 : Int) ≤ n && n < (Nat.pow 2 63 : Int) then integer n
      else float (Decimal.nearestDecimal (n < 0) (Nat.toDigits 10 n.natAbs) 0)
    | none => match Decimal.binary64? s.toList with
      | some x => float x
      | none => text s

/-- The value of a JSON number; it is an integer if it is spelt like one and fits 64 bits. -/
def ofNumber (n : Json.Number) : Option Value :=
  let magnitude := Json.Number.natOfDigits n.digits
  if n.isInteger && !n.negative && magnitude < Nat.pow 2 64 then some (integer magnitude)
  else if n.isInteger && n.negative && magnitude ≠ 0 && magnitude ≤ Nat.pow 2 63 then
    some (integer (-magnitude))
  else n.toFloat?.map fun f => float (.ofBits f.toBits)

mutual

/-- The value of a JSON text that is nested less than `depth` deep; of members of one name the
last one counts. -/
def ofNode : (depth : Nat) → Json.Node → Option Value
  | _, .null => some nothing
  | _, .bool b => some (bool b)
  | _, .number n => ofNumber n
  | _, .string s => s.map text
  | 0, .array _ => none
  | depth + 1, .array items => (ofItems depth items).map list
  | 0, .object _ => none
  | depth + 1, .object members => (ofMembers depth members).map table

/-- The values of the elements of an array. -/
def ofItems (depth : Nat) : List (Bytes × Json.Node) → Option (List Value)
  | [] => some []
  | (_, node) :: items => do
    let value ← ofNode depth node
    return value :: (← ofItems depth items)

/-- The values of the members of an object. -/
def ofMembers (depth : Nat) :
    List (Option String × Bytes × Json.Node) → Option (List (String × Value))
  | [] => some []
  | (name, _, node) :: members => do
    let name ← name
    let value ← ofNode depth node
    let rest ← ofMembers depth members
    return if rest.any fun (other, _) => other = name then rest else (name, value) :: rest

end

/-- The deepest nesting of a configuration file. -/
def depthLimit : Nat := 127

/-! ## Fields -/

/-- The text of a field. -/
def text? : Value → Option String
  | bool b => some (if b then "true" else "false")
  | integer n => some (toString n)
  | float x => some x.text
  | text s => some s
  | _ => none

/-- The number of a field without a sign. -/
def word? : Value → Option UInt64
  | bool b => some (if b then 1 else 0)
  | integer n => if 0 ≤ n then some (UInt64.ofNat n.toNat) else none
  | float x => some x.toWord
  | text s =>
    if lower s ∈ ["true", "on", "yes"] then some 1
    else if lower s ∈ ["false", "off", "no"] then some 0
    else Text.word? s.toList
  | _ => none

/-- The text of a field that may be nothing. -/
def optionalText? : Value → Option (Option String)
  | nothing => some none
  | value => value.text?.map some

/-- The fields of a section in the order of `names`: those of a table by name, those of a list by
position; others are missing. -/
def fields? (names : List String) : Value → Option (List (Option Value))
  | table entries => some (names.map fun name => entries.lookup name)
  | list items => some ((List.range names.length).map fun i => items[i]?)
  | _ => none

/-- A field, or its default if it is missing. -/
def fieldOr {α : Type} (default : α) (read : Value → Option α) : Option Value → Option α
  | none => some default
  | some value => read value

/-! ## Layers -/

/-- The entries of a table; any other value has none. -/
def entries : Value → List (String × Value)
  | table entries => entries
  | _ => []

/-- Changes the entry of a name; an entry that is missing starts as nothing. -/
def update (name : String) (change : Value → Value) :
    List (String × Value) → List (String × Value)
  | [] => [(name, change nothing)]
  | (other, value) :: rest =>
    if other = name then (other, change value) :: rest
    else (other, value) :: update name change rest

mutual

/-- Lays a new value over an old one: tables are laid over each other entry by entry, anything
else takes the place of what was there. -/
def overlay (old : Value) : Value → Value
  | table news => table (entriesOver old.entries news)
  | new => new

/-- Lays the entries of a table over those of another one. -/
def entriesOver (olds : List (String × Value)) : List (String × Value) → List (String × Value)
  | [] => olds
  | (name, new) :: news => entriesOver (update name (fun old => overlay old new) olds) news

end

/-- A step of the path to a setting; a negative index counts from the end of a list. -/
inductive Step where
  | entry (name : String)
  | item (index : Int)

/-- The position of an index in a list, with as many items of nothing added to the list as it takes to
have one there. -/
def place (index : Int) (items : List Value) : Nat × List Value :=
  if 0 ≤ index then
    (index.toNat, items ++ List.replicate (index.toNat + 1 - items.length) nothing)
  else
    (items.length - index.natAbs, List.replicate (index.natAbs - items.length) nothing ++ items)

/-- Lays a new value over the setting at a path. -/
def overAt (new : Value) : List Step → (old : Value) → Value
  | [], old => overlay old new
  | .entry name :: path, old => table (update name (overAt new path) old.entries)
  | .item index :: path, old =>
    let items := match old with
      | list items => items
      | _ => []
    let (position, items) := place index items
    list (items.modify position (overAt new path))

/-- Whether a character can stand in the name of an entry on a path. -/
def isNameChar (c : Char) : Bool := c.isAlphanum || c = '_' || c = '-'

/-- The index that the text between brackets denotes: a numeral of 64 bits with an optional minus sign,
between blanks. -/
def index? (text : List Char) : Option Int :=
  let isBlank (c : Char) : Bool := c = ' ' || c = '\t'
  let trimmed := ((text.dropWhile isBlank).reverse.dropWhile isBlank).reverse
  match trimmed with
  | '-' :: digits => (Text.digits? digits).bind fun n =>
    if n ≤ Nat.pow 2 63 then some (-n) else none
  | digits => (Text.digits? digits).bind fun n => if n < Nat.pow 2 63 then some (n : Int) else none

/-- The steps of a path behind the first name: names behind points and indices in brackets. -/
def stepsFrom (fuel : Nat) (text : List Char) : Option (List Step) :=
  match fuel, text with
  | _, [] => some []
  | 0, _ => none
  | fuel + 1, '.' :: rest =>
    let name := rest.takeWhile isNameChar
    if name.isEmpty then none
    else (stepsFrom fuel (rest.dropWhile isNameChar)).map (.entry (String.ofList name) :: ·)
  | fuel + 1, '[' :: rest =>
    match index? (rest.takeWhile (· ≠ ']')), rest.dropWhile (· ≠ ']') with
    | some index, ']' :: rest => (stepsFrom fuel rest).map (.item index :: ·)
    | _, _ => none
  | _, _ => none

/-- The path that a key spells; a key that spells none is the name of an entry as a whole. -/
def pathOf (key : String) : List Step :=
  (stepsFrom (key.length + 1) ('.' :: key.toList)).getD [.entry key]

/-- Lays settings with their keys over a configuration. -/
def overAll (settings : List (String × Value)) (old : Value) : Value :=
  settings.foldl (fun value (key, new) => overAt new (pathOf key) value) old

end Value

end QuoteProver.Config
