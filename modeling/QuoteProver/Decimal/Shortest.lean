import QuoteProver.Decimal.Binary64

/-!
# Shortest decimals

`shortest` gives the decimal with the fewest digits that reads back as a floating point number, and
of those the nearest one; `text` writes it without a power of ten, however long it gets.
-/

namespace QuoteProver.Decimal

/-- A number `digits * 10 ^ exponent`. -/
structure Scientific where
  digits : Nat
  exponent : Int
  deriving Repr, DecidableEq

/-- The reals that are rounded to a positive floating point number, as quotients over `den` times a
power of ten: from `low` to `high`, ends included if `closed`, around `value`. -/
structure Interval where
  low : Nat
  value : Nat
  high : Nat
  den : Nat
  closed : Bool
  deriving Repr, DecidableEq

namespace Interval

/-- The reals that are rounded to `m * 2 ^ e`. -/
def of (m : Nat) (e : Int) : Interval :=
  let below := if m = Nat.pow 2 52 && Binary64.leastExponent < e then 1 else 2
  let up := Nat.pow 2 e.toNat
  { low := (4 * m - below) * up, value := 4 * m * up, high := (4 * m + 2) * up,
    den := 4 * Nat.pow 2 (-e).toNat, closed := m % 2 = 0 }

/-- The interval in units of `10 ^ exponent`. -/
def inUnits (i : Interval) (exponent : Int) : Interval :=
  let up := Nat.pow 10 (-exponent).toNat
  { i with low := i.low * up, value := i.value * up, high := i.high * up,
           den := i.den * Nat.pow 10 exponent.toNat }

/-- Whether an integer lies in the interval. -/
def contains (i : Interval) (n : Nat) : Bool :=
  if i.closed then i.low ≤ n * i.den && n * i.den ≤ i.high
  else i.low < n * i.den && n * i.den < i.high

/-- The integer of the interval that is nearest to its value, the greater one of two. -/
def nearestInteger? (i : Interval) : Option Nat :=
  let n := i.value / i.den
  match i.contains n, i.contains (n + 1) with
  | false, false => none
  | true, false => some n
  | false, true => some (n + 1)
  | true, true => some (if i.value % i.den * 2 < i.den then n else n + 1)

/-- The number of digits in front of the point of the value; negative for zeros behind it. -/
def magnitude (i : Interval) (e2 : Int) : Int :=
  let guess := Int.fdiv (e2 * 30103) 100000
  let below (k : Int) : Bool := (i.inUnits k).value < (i.inUnits k).den
  if below guess then guess else if below (guess + 1) then guess + 1 else guess + 2

end Interval

/-- Moves zeros at the end of the digits into the exponent. -/
def trimZeros (fuel : Nat) (s : Scientific) : Scientific :=
  match fuel with
  | 0 => s
  | fuel + 1 =>
    if s.digits % 10 = 0 && s.digits ≠ 0 then
      trimZeros fuel { digits := s.digits / 10, exponent := s.exponent + 1 }
    else s

/-- The shortest decimal that reads back as `m * 2 ^ e`, for positive `m`. -/
def shortest (m : Nat) (e : Int) : Scientific :=
  let i := Interval.of m e
  let k := i.magnitude (e + m.log2)
  let found := (List.range 17).findSome? fun count =>
    let exponent := k - (count + 1 : Nat)
    (i.inUnits exponent).nearestInteger?.map fun digits => { digits, exponent : Scientific }
  trimZeros 20 (found.getD { digits := 0, exponent := 0 })

/-- A decimal without a power of ten. -/
def Scientific.positional (s : Scientific) : List Char :=
  let digits := Nat.toDigits 10 s.digits
  if 0 ≤ s.exponent then digits ++ List.replicate s.exponent.toNat '0'
  else
    let places := (-s.exponent).toNat
    let padded := List.replicate (places + 1 - digits.length) '0' ++ digits
    padded.take (padded.length - places) ++ '.' :: padded.drop (padded.length - places)

/-- The text of a floating point number. -/
def Binary64.text : Binary64 → String
  | nan => "NaN"
  | infinite negative => if negative then "-inf" else "inf"
  | finite negative m e =>
    let digits := if m = 0 then ['0'] else (shortest m e).positional
    String.ofList (if negative then '-' :: digits else digits)

end QuoteProver.Decimal
