/-!
# Numbers in JSON texts

A `Number` keeps the digits of its spelling.  `toFloat?` reads it as a double in two steps: the
digits from the front that fit 64 bits make a significand, the others only move the decimal point,
and the power of ten is then multiplied or divided by powers of at most `10 ^ 308`.  The result can
be a neighbour of the nearest double.
-/

namespace QuoteProver.Json

/-- A number as it is spelt: its sign, the digits in front of the point and behind it, and the
sign and digits of its exponent. -/
structure Number where
  negative : Bool
  digits : List Nat
  fraction : List Nat
  exponent : Option (Bool × List Nat)
  deriving Repr, DecidableEq

namespace Number

/-- Whether the spelling has neither a point nor an exponent. -/
def isInteger (n : Number) : Bool := n.fraction.isEmpty && n.exponent.isNone

/-- The natural number with the given decimal digits. -/
def natOfDigits (digits : List Nat) : Nat := digits.foldl (fun n d => n * 10 + d) 0

/-- The significand after the digits that still fit 64 bits, and the number of the digits that
do not. -/
def significand (start : Nat) : List Nat → Nat × Nat
  | [] => (start, 0)
  | d :: rest =>
    if start * 10 + d < Nat.pow 2 64 then significand (start * 10 + d) rest
    else (start, rest.length + 1)

/-- The largest exponent that is read digit by digit. -/
def exponentLimit : Nat := Nat.pow 2 31 - 1

/-- The double `10 ^ n`, for `n` up to 308. -/
def powerOfTen (n : Nat) : Float := Float.ofScientific 1 false n

/-- `f * 10 ^ e`, or nothing if that is out of the range of doubles; small results are reached in
steps of `10 ^ 308`. -/
def scale (f : Float) : (fuel : Nat) → (e : Int) → Option Float
  | 0, _ => some f
  | fuel + 1, e =>
    if e.natAbs ≤ 308 then
      if 0 ≤ e then
        let product := f * powerOfTen e.natAbs
        if product.isInf then none else some product
      else some (f / powerOfTen e.natAbs)
    else if f == 0 then some f
    else if 0 ≤ e then none
    else scale (f / powerOfTen 308) fuel (e + 308)

/-- The double of a number, or nothing if it is out of their range. -/
def toFloat? (n : Number) : Option Float :=
  let (whole, dropped) := significand 0 n.digits
  let (all, droppedFraction) := significand whole n.fraction
  let pointAt : Int := dropped - (n.fraction.length - droppedFraction : Nat)
  let sign (f : Float) : Float := if n.negative then -f else f
  match n.exponent with
  | none => (scale (UInt64.ofNat all).toFloat 8 pointAt).map sign
  | some (negativeExponent, digits) =>
    let e := natOfDigits digits
    if exponentLimit < e then
      if all ≠ 0 && !negativeExponent then none else some (sign 0)
    else
      let total := if negativeExponent then pointAt - e else pointAt + e
      (scale (UInt64.ofNat all).toFloat 8 total).map sign

end Number

end QuoteProver.Json
