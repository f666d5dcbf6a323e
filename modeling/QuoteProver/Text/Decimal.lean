/-!
# Decimal numerals

`natural?` reads a numeral of ASCII digits, of which there must be one, with an optional plus sign;
`word?` reads one that fits 64 bits.
-/

namespace QuoteProver.Text

/-- The number of ASCII digits, which may be none. -/
def natOfDigits (digits : List Char) : Nat :=
  digits.foldl (fun n c => n * 10 + (c.toNat - 48)) 0

/-- The number that digits denote, of which there must be one. -/
def digits? (digits : List Char) : Option Nat :=
  if !digits.isEmpty && digits.all Char.isDigit then some (natOfDigits digits) else none

/-- The number that a numeral with an optional plus sign denotes. -/
def natural? (text : List Char) : Option Nat :=
  match text with
  | '+' :: digits => digits? digits
  | digits => digits? digits

/-- The number that a numeral denotes, if it is below `2 ^ 64`. -/
def word? (text : List Char) : Option UInt64 := do
  let n ← natural? text
  if n < Nat.pow 2 64 then some (UInt64.ofNat n) else none

end QuoteProver.Text
