import QuoteProver.Bytes
import QuoteProver.Text.Quoted
import QuoteProver.Text.Utf8

/-!
# Hexadecimal text

`encode` writes two lower case digits per byte.  `decode` reads digits of either case; it asks
for an even number of bytes first and then reports the first one that is no digit.
-/

namespace QuoteProver.Text.Hex

/-- Why a text is not the hexadecimal form of a byte string. -/
inductive Fault where
  | oddLength
  | invalidCharacter (c : Char) (index : Nat)
  deriving Repr, DecidableEq

/-- The wording of a fault. -/
def Fault.message : Fault → String
  | .oddLength => "Odd number of digits"
  | .invalidCharacter c index => s!"Invalid character {quoteChar c} at position {index}"

/-- The two digits of a byte. -/
def digits (b : UInt8) : List Char := [hexDigit (b.toNat / 16), hexDigit (b.toNat % 16)]

/-- The digits of a byte string. -/
def encodeChars (bytes : Bytes) : List Char := bytes.flatMap digits

/-- The lower case hexadecimal text of a byte string. -/
def encode (bytes : Bytes) : String := String.ofList (encodeChars bytes)

/-- The value of a digit of either case. -/
def digitValue? (b : UInt8) : Option Nat :=
  if 48 ≤ b && b ≤ 57 then some (b.toNat - 48)
  else if 97 ≤ b && b ≤ 102 then some (b.toNat - 87)
  else if 65 ≤ b && b ≤ 70 then some (b.toNat - 55)
  else none

/-- The value of the digit at `index`; a byte that is none is shown as the character of the same
number. -/
def digit (b : UInt8) (index : Nat) : Except Fault Nat :=
  match digitValue? b with
  | some n => .ok n
  | none => .error (.invalidCharacter (Char.ofNat b.toNat) index)

/-- Reads pairs of digits, the first of which stands at `index`. -/
def decodePairs (index : Nat) : Bytes → Except Fault Bytes
  | high :: low :: rest => do
    let h ← digit high index
    let l ← digit low (index + 1)
    let bytes ← decodePairs (index + 2) rest
    return UInt8.ofNat (h * 16 + l) :: bytes
  | _ => .ok []

/-- The bytes that the digits of a byte string denote. -/
def decodeBytes (text : Bytes) : Except Fault Bytes :=
  if text.length % 2 = 0 then decodePairs 0 text else .error .oddLength

/-- The bytes that a text denotes. -/
def decode (text : String) : Except Fault Bytes := decodeBytes (Utf8.encode text)

end QuoteProver.Text.Hex
