import QuoteProver.Codec.Failure

/-!
# Binary formats

A `Format α` ties the two directions of a binary encoding of `α` together: `pieces` lists the
parts of an encoding with the field names around each, so that `encode` is their concatenation,
and `decode` reads a value from the front of a byte string and returns what follows it.

Formats are built from integers, `bytes` and `text` by `and`, `field`, `map`, `counted`,
`exactly` and `tagged`.
-/

namespace QuoteProver.Codec

/-- Part of an encoding that is read in one step, with the names of the fields around it,
outermost first. -/
structure Piece where
  path : List String
  bytes : Bytes
  deriving Repr, DecidableEq

/-- A piece as seen from outside the field `name`. -/
def Piece.inField (name : String) (piece : Piece) : Piece :=
  { piece with path := name :: piece.path }

/-- A way to read a value from the front of a byte string: it gives the value and the bytes
after it, or a failure. -/
abbrev Decoder (α : Type) := StateT Bytes (Except Failure) α

/-- A binary encoding of the values of a type. -/
structure Format (α : Type) where
  pieces : α → List Piece
  decode : Decoder α

/-- Lists of a fixed length. -/
abbrev Exactly (n : Nat) (α : Type) := { xs : List α // xs.length = n }

/-- A digest of 32 bytes. -/
abbrev Digest := Exactly 32 UInt8

/-- Splits `n` bytes off the front. -/
def take (n : Nat) : Decoder Bytes := fun data =>
  if n ≤ data.length then .ok (data.take n, data.drop n)
  else .error ⟨[], .insufficientBytes n data.length⟩

namespace Format

variable {α β : Type}

/-- The bytes of a value. -/
def encode (f : Format α) (a : α) : Bytes := (f.pieces a).flatMap Piece.bytes

/-- The value at the front of a byte string, whatever follows it. -/
def decodeFront (f : Format α) (data : Bytes) : Except Failure α := f.decode.run' data

/-! ## Primitive pieces -/

/-- A little-endian number of `width` bytes. -/
def number (width : Nat) (toNat : α → Nat) (ofNat : Nat → α) : Format α where
  pieces a := [⟨[], Bytes.littleEndian width (toNat a)⟩]
  decode := do return ofNat (Bytes.natOfLittleEndian (← take width))

/-- A number of one byte. -/
def uint8 : Format UInt8 := number 1 UInt8.toNat UInt8.ofNat

/-- A number of two bytes. -/
def uint16 : Format UInt16 := number 2 UInt16.toNat UInt16.ofNat

/-- A number of four bytes. -/
def uint32 : Format UInt32 := number 4 UInt32.toNat UInt32.ofNat

/-- A number of eight bytes. -/
def uint64 : Format UInt64 := number 8 UInt64.toNat UInt64.ofNat

/-- Nothing at all. -/
def unit : Format Unit where
  pieces _ := []
  decode := return ()

/-- A type without values: reading one always fails. -/
def empty (cause : Cause) : Format Empty where
  pieces a := nomatch a
  decode := throw ⟨[], cause⟩

/-! ## Combinations -/

/-- Puts the field name `name` on the pieces and on the failures. -/
def field (name : String) (f : Format α) : Format α where
  pieces a := (f.pieces a).map (Piece.inField name)
  decode data := (f.decode data).mapError (Failure.inField name)

/-- Reads and writes a type through another one. -/
def map (f : Format α) (ofValue : α → β) (toValue : β → α) : Format β where
  pieces b := f.pieces (toValue b)
  decode := ofValue <$> f.decode

/-- A value after another one. -/
def and (f : Format α) (g : Format β) : Format (α × β) where
  pieces p := f.pieces p.1 ++ g.pieces p.2
  decode := do
    let a ← f.decode
    let b ← g.decode
    return (a, b)

/-- Reads `n` values, one after another. -/
def decodeMany (f : Format α) : (n : Nat) → Decoder (Exactly n α)
  | 0 => return ⟨[], rfl⟩
  | n + 1 => do
    let a ← f.decode
    let ⟨as, h⟩ ← decodeMany f n
    return ⟨a :: as, by simp [h]⟩

/-- A fixed number of values; their number is not written. -/
def exactly (n : Nat) (f : Format α) : Format (Exactly n α) where
  pieces as := as.1.flatMap f.pieces
  decode := decodeMany f n

/-- The number of elements or bytes that follow. -/
def length : Format UInt64 := uint64.field "len"

/-- Values with their number in front. -/
def counted (f : Format α) : Format (List α) where
  pieces as := length.pieces (UInt64.ofNat as.length) ++ as.flatMap f.pieces
  decode := do
    let n ← length.decode
    return (← decodeMany f n.toNat).1

/-- A byte string with its length in front. -/
def bytes : Format Bytes where
  pieces bs := length.pieces (UInt64.ofNat bs.length) ++ [⟨[], bs⟩]
  decode := do
    let n ← length.decode
    take n.toNat

/-- A UTF-8 string with the length of its bytes in front. -/
def text : Format String where
  pieces s := bytes.pieces (Text.Utf8.encode s)
  decode := do
    match Text.Utf8.decode (← bytes.decode) with
    | .ok chars => return String.ofList chars
    | .error fault => throw ⟨[], .utf8 fault⟩

/-- 32 bytes, read one by one. -/
def digest : Format Digest := exactly 32 uint8

/-! ## Variants -/

/-- The tags of a type with variants: `κ` names the variants whose contents are read. -/
structure Tags (κ : Type) where
  /-- The name of the type in failures. -/
  type : String
  kinds : List κ
  tag : κ → Nat
  /-- The tags of the variants whose contents are not read. -/
  unsupported : List Nat := []

/-- The variant that a tag stands for. -/
def Tags.kind {κ : Type} (tags : Tags κ) (tag : Nat) : Except Failure κ :=
  match tags.kinds.find? fun k => tags.tag k = tag with
  | some k => .ok k
  | none =>
    .error ⟨[], if tag ∈ tags.unsupported then .unsupportedVariant tags.type tag
      else .unknownVariant tags.type tag⟩

/-- A number that tells the variant, then the contents of that variant. -/
def tagged {κ : Type} {β : κ → Type} (number : Format Nat) (tags : Tags κ)
    (contents : (k : κ) → Format (β k)) : Format (Σ k, β k) where
  pieces v := (number.field "tag").pieces (tags.tag v.1) ++ (contents v.1).pieces v.2
  decode := do
    let k ← tags.kind (← (number.field "tag").decode)
    return ⟨k, ← (contents k).decode⟩

/-- The tag of a variant: four bytes. -/
def variantTag : Format Nat := number 4 id id

/-- A value that may be missing: one byte, 0 or 1, and the value after 1. -/
def option (f : Format α) : Format (Option α) :=
  (tagged (β := fun b => if b then α else Unit) (number 1 id id)
    { type := "Option", kinds := [false, true], tag := Bool.toNat }
    fun | false => unit | true => f).map
    (fun | ⟨false, _⟩ => none | ⟨true, a⟩ => some a)
    (fun | none => ⟨false, ()⟩ | some a => ⟨true, a⟩)

end Format

end QuoteProver.Codec
