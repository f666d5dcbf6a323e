import QuoteProver.Succinct.Stdin

/-!
# The types of the codec

A `Shape` describes a type that is built from integers, byte strings, texts and guest inputs by
lists, lists of a fixed length and optional values.  `Shape.Value` is that type and
`Shape.format` its binary format.
-/

namespace QuoteProver.Codec

/-- The description of a type that the codec can write and read. -/
inductive Shape where
  | u8 | u16 | u32 | u64
  | bytes
  | text
  | stdin
  | list (element : Shape)
  | array (n : Nat) (element : Shape)
  | option (element : Shape)
  deriving Repr, DecidableEq

namespace Shape

/-- The type that a shape describes. -/
def Value : Shape → Type
  | u8 => UInt8
  | u16 => UInt16
  | u32 => UInt32
  | u64 => UInt64
  | bytes => Bytes
  | text => String
  | stdin => Succinct.Stdin
  | list element => List element.Value
  | array n element => Exactly n element.Value
  | option element => Option element.Value

/-- The binary format of the type that a shape describes. -/
def format : (s : Shape) → Format s.Value
  | u8 => .uint8
  | u16 => .uint16
  | u32 => .uint32
  | u64 => .uint64
  | bytes => .bytes
  | text => .text
  | stdin => Succinct.Stdin.format
  | list element => .counted element.format
  | array n element => .exactly n element.format
  | option element => .option element.format

end Shape

end QuoteProver.Codec
