import QuoteProver.Codec.Shape

/-!
# Streams of values

An `Item` is a value with the shape of its type.  The items of a stream are written one after
another with nothing between them (`encodeItems`), and a reader who knows their shapes reads each
of them from what the one before has left (`decodeItems`).
-/

namespace QuoteProver.Codec

/-- A value with the shape of its type. -/
structure Item where
  shape : Shape
  value : shape.Value

/-- The bytes of an item. -/
def Item.encode (item : Item) : Bytes := item.shape.format.encode item.value

/-- The bytes of items one after the other. -/
def encodeItems (items : List Item) : Bytes := items.flatMap Item.encode

/-- What comes of reading a stream. -/
structure StreamResult where
  /-- The items that were read, each with the bytes after it. -/
  read : List (Item × Bytes)
  /-- Why the next one was not. -/
  failure : Option Failure

/-- Reads items of the given shapes up to the first one that is not there. -/
def decodeItems : List Shape → Bytes → StreamResult
  | [], _ => ⟨[], none⟩
  | shape :: shapes, data =>
    match shape.format.decode data with
    | .ok (value, rest) =>
      let later := decodeItems shapes rest
      ⟨(⟨shape, value⟩, rest) :: later.read, later.failure⟩
    | .error failure => ⟨[], some failure⟩

end QuoteProver.Codec
