import QuoteProver.Decimal.Binary64
import QuoteProver.Text.Decimal

/-!
# Numerals of floating point numbers

`binary64?` reads a decimal numeral, with an optional point and an optional power of ten, as the
nearest floating point number; `inf`, `infinity` and `nan` in letters of either case are numerals
too.  `integer?` reads an integer with an optional sign.
-/

namespace QuoteProver.Decimal

/-- The sign in front of a numeral and the rest. -/
def splitSign : List Char → Bool × List Char
  | '-' :: rest => (true, rest)
  | '+' :: rest => (false, rest)
  | text => (false, text)

/-- The integer that a numeral denotes. -/
def integer? (text : List Char) : Option Int := do
  let (negative, digits) := splitSign text
  let n ← Text.digits? digits
  return if negative then -n else n

/-- Beyond this power of ten every number with a significand of few digits is infinite or zero. -/
def farExponent : Nat := 400

/-- The number nearest to `digits * 10 ^ exponent`. -/
def nearestDecimal (negative : Bool) (digits : List Char) (exponent : Int) : Binary64 :=
  let n := Text.natOfDigits digits
  let size : Int := (Nat.toDigits 10 n).length + exponent
  if n = 0 then .nearest negative 0 1
  else if farExponent < size then .infinite negative
  else if size < -farExponent then .nearest negative 0 1
  else if 0 ≤ exponent then .nearest negative (n * Nat.pow 10 exponent.toNat) 1
  else .nearest negative n (Nat.pow 10 (-exponent).toNat)

/-- The power of ten at the end of a numeral. -/
def exponent? : List Char → Option Int
  | [] => some 0
  | e :: rest => if e = 'e' || e = 'E' then integer? rest else none

/-- The floating point number that a numeral denotes. -/
def binary64? (text : List Char) : Option Binary64 := do
  let (negative, text) := splitSign text
  let lower := String.ofList (text.map Char.toLower)
  if lower ∈ ["inf", "infinity"] then return .infinite negative
  if lower = "nan" then return .nan
  let whole := text.takeWhile Char.isDigit
  let (fraction, rest) := match text.dropWhile Char.isDigit with
    | '.' :: rest => (rest.takeWhile Char.isDigit, rest.dropWhile Char.isDigit)
    | rest => ([], rest)
  if whole.isEmpty && fraction.isEmpty then none else
  let exponent ← exponent? rest
  return nearestDecimal negative (whole ++ fraction) (exponent - fraction.length)

end QuoteProver.Decimal
