import QuoteProver.Der.Element
import QuoteProver.Der.Oid

/-!
# Reading DER structures

A `Reader` takes a value from the front of a byte string or fails.  `element` takes one element,
`inside` reads the contents of a constructed one completely, `many` reads values to the end.
Tags of unassigned types and of more than one byte are refused wherever one is looked at, and so are
elements of `2 ^ 28` bytes and more, which `Element.read` alone would take.
-/

namespace QuoteProver.Der

/-- Takes a value from the front of a byte string. -/
abbrev Reader (α : Type) := StateT Bytes Option α

namespace Reader

/-- The tags of the universal class that are assigned. -/
def universalTags : List UInt8 :=
  [0x01, 0x02, 0x03, 0x04, 0x05, 0x06, 0x09, 0x0A, 0x0C, 0x12, 0x13, 0x14, 0x15, 0x16, 0x17, 0x18,
    0x1A, 0x1E, 0x30, 0x31]

/-- Whether a byte is a tag: an assigned one of the universal class or any of another class. -/
def isTag (b : UInt8) : Bool :=
  if b < 0x40 then b ∈ universalTags else b % 32 ≠ 31

/-- The tag of the next element; nothing if there is none. -/
def peek : Reader (Option UInt8) := fun data =>
  match data with
  | [] => some (none, [])
  | b :: _ => if isTag b then some (some b, data) else none

/-- What the contents of an element of a structure are shorter than. -/
def lengthBound : Nat := Nat.pow 2 28

/-- Takes an element of any type. -/
def any : Reader Element := fun data =>
  match data with
  | [] => none
  | b :: _ =>
    if isTag b then (Element.read data).filter fun (e, _) => e.contents.length < lengthBound
    else none

/-- Takes an element with the given tag and gives its contents. -/
def element (tag : UInt8) : Reader Bytes := do
  let e ← any
  if e.tag = tag then return e.contents else failure

/-- The value of a byte string that holds nothing else. -/
def whole {α : Type} (r : Reader α) (data : Bytes) : Option α :=
  match r data with
  | some (a, []) => some a
  | _ => none

/-- Takes an element with the given tag and reads its contents completely. -/
def inside {α : Type} (tag : UInt8) (r : Reader α) : Reader α := do
  r.whole (← element tag)

/-- Reads values to the end of at most `fuel` bytes. -/
def manyFrom {α : Type} (r : Reader α) : (fuel : Nat) → Reader (List α)
  | 0, data => if data.isEmpty then some ([], []) else none
  | fuel + 1, data =>
    match data with
    | [] => some ([], [])
    | data => do
      let (a, rest) ← r data
      let (as, rest) ← manyFrom r fuel rest
      return (a :: as, rest)

/-- Reads values to the end; each takes at least one byte. -/
def many {α : Type} (r : Reader α) : Reader (List α) := fun data => manyFrom r data.length data

/-- The value at the front with the bytes that spell it. -/
def spelt {α : Type} (r : Reader α) : Reader (Bytes × α) := fun data => do
  let (a, rest) ← r data
  return ((data.take (data.length - rest.length), a), rest)

/-- Takes a value if the next element has the given tag. -/
def optionally {α : Type} (tag : UInt8) (r : Reader α) : Reader (Option α) := do
  if (← peek) = some tag then return some (← r) else return none

/-- Whether a tag is of the context-specific class. -/
def isContextTag (b : UInt8) : Bool := b / 64 = 2

/-- Takes a value if the next element is context-specific with the given number, in front of
which elements with lower numbers are skipped. -/
def numbered {α : Type} (number : UInt8) (r : Reader α) : Reader (Option α) := fun data =>
  go data.length data
where
  go : (fuel : Nat) → Reader (Option α)
  | 0, data => some (none, data)
  | fuel + 1, data =>
    match peek data with
    | none => none
    | some (none, _) => some (none, data)
    | some (some tag, _) =>
      if !isContextTag tag || number < tag % 32 then some (none, data)
      else if tag % 32 = number then (r data).map fun (a, rest) => (some a, rest)
      else match any data with
        | none => none
        | some (_, rest) => go fuel rest

/-! ## Primitive types -/

/-- Takes an object identifier. -/
def oid : Reader Oid := do Oid.ofBytes? (← element 0x06)

/-- Takes an integer and gives its octets, which are as few as its sign allows. -/
def integer : Reader Bytes := do
  let octets ← element 0x02
  match octets with
  | [] => failure
  | first :: second :: _ =>
    if (first = 0 && second < 0x80) || (first = 0xFF && 0x80 ≤ second) then failure
    else return octets
  | _ => return octets

/-- Takes a truth value, which has one octet of all bits alike. -/
def boolean : Reader Bool := do
  match ← element 0x01 with
  | [0x00] => return false
  | [0xFF] => return true
  | _ => failure

/-- Takes a string of bits under the given tag and gives its octets: the first byte of the
contents counts the bits of the last octet that do not belong to it. -/
def bits (tag : UInt8) : Reader Bytes := do
  match ← element tag with
  | [] => failure
  | unused :: octets =>
    if 7 < unused || (unused ≠ 0 && octets.isEmpty) then failure else return octets

/-! ## Times -/

/-- The number of two decimal digits. -/
def twoDigits? (a b : UInt8) : Option Nat :=
  if 0x30 ≤ a && a ≤ 0x39 && 0x30 ≤ b && b ≤ 0x39 then
    some ((a.toNat - 48) * 10 + (b.toNat - 48))
  else none

/-- The numbers of pairs of digits that end in a `Z`. -/
def digitPairs? : Bytes → Option (List Nat)
  | [0x5A] => some []
  | a :: b :: rest => do return (← twoDigits? a b) :: (← digitPairs? rest)
  | _ => none

/-- The number of days of a month. -/
def daysIn (year month : Nat) : Nat :=
  if month = 2 then
    if year % 4 = 0 && (year % 100 ≠ 0 || year % 400 = 0) then 29 else 28
  else if month ∈ [4, 6, 9, 11] then 30
  else 31

/-- Whether numbers are a date from 1970 on and a time of day. -/
def isMoment (year month day hour minute second : Nat) : Bool :=
  1970 ≤ year && 1 ≤ month && month ≤ 12 && 1 ≤ day && day ≤ daysIn year month && hour ≤ 23 &&
    minute ≤ 59 && second ≤ 59

/-- Takes a time with two or four digits of the year and checks it; two digits are a year from
1950 to 2049. -/
def time : Reader Unit := do
  let e ← any
  let numbers ← digitPairs? e.contents
  match e.tag, numbers with
  | 0x17, [year, month, day, hour, minute, second] =>
    guard (isMoment (if 50 ≤ year then 1900 + year else 2000 + year) month day hour minute second)
  | 0x18, [century, year, month, day, hour, minute, second] =>
    guard (isMoment (century * 100 + year) month day hour minute second)
  | _, _ => failure

end Reader

end QuoteProver.Der
