import QuoteProver.Json.Number
import QuoteProver.Text.Utf8

/-!
# Reading JSON texts

`Node.parse` reads a JSON text.  A `Node` keeps what the readers of records need: the bytes that
spell each element and member, members in the order of the text with repeated names, and strings
that are no Unicode text (a lone surrogate, invalid UTF-8) as `none`, since such a string is
allowed where nobody looks at its contents.
-/

namespace QuoteProver.Json

/-- A JSON value as it is spelt. -/
inductive Node where
  | null
  | bool (b : Bool)
  | number (n : Number)
  | string (text : Option String)
  | array (items : List (Bytes × Node))
  | object (members : List (Option String × Bytes × Node))

namespace Node

/-! ## Blanks, digits and strings -/

/-- Whether a byte is white space between the tokens. -/
def isBlank (b : UInt8) : Bool := b = 0x20 || b = 0x09 || b = 0x0A || b = 0x0D

/-- Drops the white space at the front. -/
def skipBlanks (s : Bytes) : Bytes := s.dropWhile isBlank

/-- Whether a byte is a decimal digit. -/
def isDigit (b : UInt8) : Bool := 0x30 ≤ b && b ≤ 0x39

/-- The decimal digits at the front. -/
def readDigits (s : Bytes) : List Nat × Bytes :=
  ((s.takeWhile isDigit).map fun b => b.toNat - 48, s.dropWhile isDigit)

/-- The decimal digits at the front, of which there must be one. -/
def readDigits1 (s : Bytes) : Option (List Nat × Bytes) :=
  match readDigits s with
  | ([], _) => none
  | found => some found

/-- The digits behind a point, if one follows. -/
def readFraction : Bytes → Option (List Nat × Bytes)
  | 0x2E :: rest => readDigits1 rest
  | s => some ([], s)

/-- The sign and the digits of an exponent, if one follows. -/
def readExponent : Bytes → Option (Option (Bool × List Nat) × Bytes)
  | b :: rest =>
    if b = 0x65 || b = 0x45 then do
      let (negative, rest) := match rest with
        | 0x2B :: rest => (false, rest)
        | 0x2D :: rest => (true, rest)
        | rest => (false, rest)
      let (digits, rest) ← readDigits1 rest
      return (some (negative, digits), rest)
    else some (none, b :: rest)
  | [] => some (none, [])

/-- A number: leading zeros are not allowed. -/
def readNumber (s : Bytes) : Option (Number × Bytes) := do
  let (negative, s) := match s with
    | 0x2D :: rest => (true, rest)
    | s => (false, s)
  let (digits, s) ← readDigits1 s
  if digits.head? = some 0 && digits.length ≠ 1 then none else
  let (fraction, s) ← readFraction s
  let (exponent, s) ← readExponent s
  return ({ negative, digits, fraction, exponent }, s)

/-- Part of the contents of a string: a byte that stands for itself or is escaped by a letter,
or a UTF-16 unit given by its number. -/
inductive Unit16 where
  | byte (b : UInt8)
  | unit (n : Nat)

/-- The byte that a backslash and a letter stand for. -/
def escapedByte? (b : UInt8) : Option UInt8 :=
  if b = 0x22 || b = 0x5C || b = 0x2F then some b
  else if b = 0x62 then some 0x08
  else if b = 0x66 then some 0x0C
  else if b = 0x6E then some 0x0A
  else if b = 0x72 then some 0x0D
  else if b = 0x74 then some 0x09
  else none

/-- The value of a hexadecimal digit. -/
def hexValue? (b : UInt8) : Option Nat :=
  if isDigit b then some (b.toNat - 48)
  else if 0x61 ≤ b && b ≤ 0x66 then some (b.toNat - 87)
  else if 0x41 ≤ b && b ≤ 0x46 then some (b.toNat - 55)
  else none

/-- The number of four hexadecimal digits. -/
def hex4? (a b c d : UInt8) : Option Nat := do
  return (← hexValue? a) * 4096 + (← hexValue? b) * 256 + (← hexValue? c) * 16 + (← hexValue? d)

/-- The contents of a string up to its closing mark. -/
def readUnits : Bytes → Option (List Unit16 × Bytes)
  | [] => none
  | 0x22 :: rest => some ([], rest)
  | 0x5C :: 0x75 :: a :: b :: c :: d :: rest => do
    let n ← hex4? a b c d
    let (units, after) ← readUnits rest
    return (.unit n :: units, after)
  | 0x5C :: e :: rest => do
    let b ← escapedByte? e
    let (units, after) ← readUnits rest
    return (.byte b :: units, after)
  | b :: rest =>
    if b < 0x20 then none else do
      let (units, after) ← readUnits rest
      return (.byte b :: units, after)

/-- The bytes of the contents of a string, if its units of the surrogate range come in pairs. -/
def unitBytes : List Unit16 → Option Bytes
  | [] => some []
  | .byte b :: rest => (b :: ·) <$> unitBytes rest
  | .unit high :: .unit low :: rest =>
    if 0xD800 ≤ high && high < 0xDC00 then
      if 0xDC00 ≤ low && low < 0xE000 then
        (Text.Utf8.encodeChar
          (Char.ofNat (0x10000 + (high - 0xD800) * 0x400 + (low - 0xDC00))) ++ ·) <$>
          unitBytes rest
      else none
    else if 0xDC00 ≤ high && high < 0xE000 then none
    else (Text.Utf8.encodeChar (Char.ofNat high) ++ ·) <$> unitBytes (.unit low :: rest)
  | .unit n :: rest =>
    if 0xD800 ≤ n && n < 0xE000 then none
    else (Text.Utf8.encodeChar (Char.ofNat n) ++ ·) <$> unitBytes rest

/-- A string after its opening mark: its text, if its contents are one. -/
def readString (s : Bytes) : Option (Option String × Bytes) := do
  let (units, rest) ← readUnits s
  return ((unitBytes units).bind Text.Utf8.decode?, rest)

/-! ## Values -/

/-- The part of `s` in front of its end `rest`. -/
def upTo (s rest : Bytes) : Bytes := s.take (s.length - rest.length)

mutual

/-- Reads a value that starts at once. -/
def readValue : (fuel : Nat) → Bytes → Option (Node × Bytes)
  | 0, _ => none
  | fuel + 1, s =>
    match s with
    | 0x22 :: rest => (readString rest).map fun (text, rest) => (.string text, rest)
    | 0x5B :: rest =>
      match skipBlanks rest with
      | 0x5D :: rest => some (.array [], rest)
      | rest => (readItems fuel rest).map fun (items, rest) => (.array items, rest)
    | 0x7B :: rest =>
      match skipBlanks rest with
      | 0x7D :: rest => some (.object [], rest)
      | rest => (readMembers fuel rest).map fun (members, rest) => (.object members, rest)
    | 0x6E :: 0x75 :: 0x6C :: 0x6C :: rest => some (.null, rest)
    | 0x74 :: 0x72 :: 0x75 :: 0x65 :: rest => some (.bool true, rest)
    | 0x66 :: 0x61 :: 0x6C :: 0x73 :: 0x65 :: rest => some (.bool false, rest)
    | s => (readNumber s).map fun (n, rest) => (.number n, rest)

/-- Reads the elements of an array and its end. -/
def readItems : (fuel : Nat) → Bytes → Option (List (Bytes × Node) × Bytes)
  | 0, _ => none
  | fuel + 1, s => do
    let (value, rest) ← readValue fuel s
    let item := (upTo s rest, value)
    match skipBlanks rest with
    | 0x2C :: rest =>
      let (items, rest) ← readItems fuel (skipBlanks rest)
      return (item :: items, rest)
    | 0x5D :: rest => return ([item], rest)
    | _ => none

/-- Reads the members of an object and its end. -/
def readMembers : (fuel : Nat) → Bytes → Option (List (Option String × Bytes × Node) × Bytes)
  | 0, _ => none
  | fuel + 1, s =>
    match s with
    | 0x22 :: rest => do
      let (name, rest) ← readString rest
      match skipBlanks rest with
      | 0x3A :: rest =>
        let s := skipBlanks rest
        let (value, rest) ← readValue fuel s
        let member := (name, upTo s rest, value)
        match skipBlanks rest with
        | 0x2C :: rest =>
          let (members, rest) ← readMembers fuel (skipBlanks rest)
          return (member :: members, rest)
        | 0x7D :: rest => return ([member], rest)
        | _ => none
      | _ => none
    | _ => none

end

/-- Reads a JSON text: one value with nothing but white space around it. -/
def parse (text : Bytes) : Option Node := do
  let (value, rest) ← readValue (text.length + 1) (skipBlanks text)
  if (skipBlanks rest).isEmpty then some value else none

/-- Reads a JSON text that is given as a string. -/
def ofString (text : String) : Option Node := parse (Text.Utf8.encode text)

/-! ## Contents -/

/-- A string. -/
def text? : Node → Option String
  | .string text => text
  | _ => none

/-- A number as floating-point value. -/
def float? : Node → Option Float
  | .number n => n.toFloat?
  | _ => none

/-- A value that may be `null`. -/
def nullable {α : Type} (read : Node → Option α) : Node → Option (Option α)
  | .null => some none
  | node => (read node).map some

/-- A member or element: the bytes that spell it and its value. -/
abbrev Entry := Bytes × Node

/-- The members of a record in the order of `names`, read from an object, where each name may
occur once and other names are skipped, or from an array with the members in order, which may
stop before the members that have `defaults`. -/
def record? (names : List String) (defaults : List String) : Node → Option (List (Option Entry))
  | .object members =>
    if members.any fun (name, _) => name.isNone then none
    else names.mapM fun name =>
      match members.filter fun (other, _) => other = some name with
      | [] => if name ∈ defaults then some none else none
      | [(_, entry)] => some (some entry)
      | _ => none
  | .array items =>
    if names.length < items.length then none
    else if (names.drop items.length).all (· ∈ defaults) then
      some ((items.map some) ++ List.replicate (names.length - items.length) none)
    else none
  | _ => none

/-- One of the values of an enumeration: its name, or an object with that single name and the
value `null`. -/
def choice? {α : Type} (choices : List (String × α)) : Node → Option α
  | .string (some name) => choices.lookup name
  | .object [(some name, _, .null)] => choices.lookup name
  | _ => none

end Node

end QuoteProver.Json
