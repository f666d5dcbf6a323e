import QuoteProver.Json.Node

/-!
# The grammar of JSON texts

What spells a JSON value, said without the reader: `NumberOf` and `StringOf` for the tokens,
`ValueOf`, `ItemsOf` and `MembersOf` for values and the contents of arrays and objects, and `TextOf`
for a text with one value.  White space may stand between any two tokens and belongs to none of the
values.
-/

namespace QuoteProver.Json

open Node (isBlank isDigit Unit16)

/-! ## Tokens -/

/-- White space. -/
def Blanks (s : Bytes) : Prop := ∀ b ∈ s, isBlank b = true

/-- Decimal digits, at least one. -/
def DigitsOf (digits : List Nat) (s : Bytes) : Prop :=
  s ≠ [] ∧ (∀ b ∈ s, isDigit b = true) ∧ digits = s.map fun b => b.toNat - 48

/-- A part of a number in front of its digits: a sign. -/
inductive SignOf : Bool → Bytes → Prop
  | minus : SignOf true [0x2D]
  | none : SignOf false []

/-- The digits behind a point, or nothing. -/
inductive FractionOf : List Nat → Bytes → Prop
  | none : FractionOf [] []
  | point {digits : List Nat} {s : Bytes} : DigitsOf digits s → FractionOf digits (0x2E :: s)

/-- The sign of an exponent, which may be a plus. -/
inductive ExponentSignOf : Bool → Bytes → Prop
  | plus : ExponentSignOf false [0x2B]
  | sign {negative : Bool} {s : Bytes} : SignOf negative s → ExponentSignOf negative s

/-- An exponent behind a letter of either case, or nothing. -/
inductive ExponentOf : Option (Bool × List Nat) → Bytes → Prop
  | none : ExponentOf none []
  | letter {e : UInt8} {negative : Bool} {digits : List Nat} {sign s : Bytes} :
      e = 0x65 ∨ e = 0x45 → ExponentSignOf negative sign → DigitsOf digits s →
      ExponentOf (some (negative, digits)) (e :: sign ++ s)

/-- A number, whose digits in front of the point start with a zero only if that is the only one. -/
inductive NumberOf : Number → Bytes → Prop
  | mk {negative : Bool} {digits fraction : List Nat} {exponent : Option (Bool × List Nat)}
      {sign whole point power : Bytes} :
      SignOf negative sign → DigitsOf digits whole → (digits.head? = some 0 → digits.length = 1) →
      FractionOf fraction point → ExponentOf exponent power →
      NumberOf { negative, digits, fraction, exponent } (sign ++ whole ++ point ++ power)

/-- The contents of a string: bytes that stand for themselves, letters behind a backslash and numbers
of four hexadecimal digits. -/
inductive UnitsOf : List Unit16 → Bytes → Prop
  | nil : UnitsOf [] []
  | plain {b : UInt8} {units : List Unit16} {s : Bytes} : 0x20 ≤ b → b ≠ 0x22 → b ≠ 0x5C →
      UnitsOf units s → UnitsOf (.byte b :: units) (b :: s)
  | letter {e b : UInt8} {units : List Unit16} {s : Bytes} : Node.escapedByte? e = some b →
      UnitsOf units s → UnitsOf (.byte b :: units) (0x5C :: e :: s)
  | number {a b c d : UInt8} {n : Nat} {units : List Unit16} {s : Bytes} :
      Node.hex4? a b c d = some n → UnitsOf units s →
      UnitsOf (.unit n :: units) (0x5C :: 0x75 :: a :: b :: c :: d :: s)

/-- A string between its marks, with the text that its contents are, if they are one. -/
inductive StringOf : Option String → Bytes → Prop
  | mk {units : List Unit16} {s : Bytes} : UnitsOf units s →
      StringOf ((Node.unitBytes units).bind Text.Utf8.decode?) (0x22 :: s ++ [0x22])

/-! ## Values -/

mutual

/-- The spelling of a value, from its first byte to its last. -/
inductive ValueOf : Node → Bytes → Prop
  | null : ValueOf .null [0x6E, 0x75, 0x6C, 0x6C]
  | boolTrue : ValueOf (.bool true) [0x74, 0x72, 0x75, 0x65]
  | boolFalse : ValueOf (.bool false) [0x66, 0x61, 0x6C, 0x73, 0x65]
  | number {n : Number} {s : Bytes} : NumberOf n s → ValueOf (.number n) s
  | string {text : Option String} {s : Bytes} : StringOf text s → ValueOf (.string text) s
  | emptyArray {gap : Bytes} : Blanks gap → ValueOf (.array []) (0x5B :: gap ++ [0x5D])
  | array {items : List (Bytes × Node)} {gap s : Bytes} : Blanks gap → ItemsOf items s →
      ValueOf (.array items) (0x5B :: gap ++ s)
  | emptyObject {gap : Bytes} : Blanks gap → ValueOf (.object []) (0x7B :: gap ++ [0x7D])
  | object {members : List (Option String × Bytes × Node)} {gap s : Bytes} : Blanks gap →
      MembersOf members s → ValueOf (.object members) (0x7B :: gap ++ s)

/-- The elements of an array with the end of the array. -/
inductive ItemsOf : List (Bytes × Node) → Bytes → Prop
  | last {s gap : Bytes} {node : Node} : ValueOf node s → Blanks gap →
      ItemsOf [(s, node)] (s ++ gap ++ [0x5D])
  | cons {s gap gap' t : Bytes} {node : Node} {items : List (Bytes × Node)} : ValueOf node s →
      Blanks gap → Blanks gap' → ItemsOf items t →
      ItemsOf ((s, node) :: items) (s ++ gap ++ 0x2C :: gap' ++ t)

/-- A member: its name, a colon and its value. -/
inductive MemberOf : Option String × Bytes × Node → Bytes → Prop
  | mk {name : Option String} {k gap gap' s : Bytes} {node : Node} : StringOf name k → Blanks gap →
      Blanks gap' → ValueOf node s → MemberOf (name, s, node) (k ++ gap ++ 0x3A :: gap' ++ s)

/-- The members of an object with the end of the object. -/
inductive MembersOf : List (Option String × Bytes × Node) → Bytes → Prop
  | last {s gap : Bytes} {member : Option String × Bytes × Node} : MemberOf member s → Blanks gap →
      MembersOf [member] (s ++ gap ++ [0x7D])
  | cons {s gap gap' t : Bytes} {member : Option String × Bytes × Node}
      {members : List (Option String × Bytes × Node)} : MemberOf member s → Blanks gap →
      Blanks gap' → MembersOf members t →
      MembersOf (member :: members) (s ++ gap ++ 0x2C :: gap' ++ t)

end

/-- A text with one value and white space around it. -/
def TextOf (node : Node) (text : Bytes) : Prop :=
  ∃ gap s gap', Blanks gap ∧ ValueOf node s ∧ Blanks gap' ∧ text = gap ++ s ++ gap'

end QuoteProver.Json
