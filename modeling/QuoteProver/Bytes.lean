/-!
# Byte strings

`Bytes` are lists of octets.  Numbers of a fixed width are written with `littleEndian` and
`bigEndian`, which keep the number modulo `256 ^ width`, and are read back with
`natOfLittleEndian` and `natOfBigEndian`.
-/

namespace QuoteProver

/-- A byte string. -/
abbrev Bytes := List UInt8

namespace Bytes

/-- The `width` low octets of a number, the least significant one first. -/
def littleEndian : (width : Nat) → Nat → Bytes
  | 0, _ => []
  | width + 1, n => UInt8.ofNat n :: littleEndian width (n / 256)

/-- The number whose octets are given, the least significant one first. -/
def natOfLittleEndian : Bytes → Nat
  | [] => 0
  | b :: rest => b.toNat + 256 * natOfLittleEndian rest

/-- The `width` low octets of a number, the most significant one first. -/
def bigEndian (width n : Nat) : Bytes :=
  (littleEndian width n).reverse

/-- The number whose octets are given, the most significant one first. -/
def natOfBigEndian (bytes : Bytes) : Nat :=
  bytes.foldl (fun n b => n * 256 + b.toNat) 0

/-- The octets of an ASCII text. -/
def ofAscii (text : String) : Bytes :=
  text.toList.map fun c => UInt8.ofNat c.toNat

/-- Whether a byte string stands in front of another one in the lexicographic order. -/
def lexLt : Bytes → Bytes → Bool
  | [], [] => false
  | [], _ :: _ => true
  | _ :: _, [] => false
  | a :: as, b :: bs => a < b || (a = b && lexLt as bs)

@[simp] theorem length_littleEndian (width n : Nat) : (littleEndian width n).length = width := by
  induction width generalizing n with
  | zero => rfl
  | succ width ih => simp [littleEndian, ih]

end Bytes

end QuoteProver
