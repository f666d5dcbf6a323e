import QuoteProver.Bytes

/-!
# The curve secp256k1

Points of the curve `y² = x³ + 7` over the integers modulo `fieldPrime`.  Sums are formed in
coordinates `(x / z², y / z³)`, so that only the change back to `Point` divides.
`Point.ofBytes?` reads the three written forms of a point.
-/

namespace QuoteProver.Crypto.Secp256k1

/-- The prime number that the coordinates are taken modulo. -/
def fieldPrime : Nat := 0xFFFFFFFFFFFFFFFFFFFFFFFFFFFFFFFFFFFFFFFFFFFFFFFFFFFFFFFEFFFFFC2F

/-- The number of points of the curve. -/
def order : Nat := 0xFFFFFFFFFFFFFFFFFFFFFFFFFFFFFFFEBAAEDCE6AF48A03BBFD25E8CD0364141

/-- A power modulo a number, by repeated squaring. -/
def powMod (base exponent modulus : Nat) : Nat :=
  if exponent = 0 then 1 % modulus
  else
    let half := powMod base (exponent / 2) modulus
    let square := half * half % modulus
    if exponent % 2 = 1 then square * base % modulus else square
termination_by exponent

/-- The inverse of a number modulo a prime. -/
def inverse (n prime : Nat) : Nat := powMod n (prime - 2) prime

/-- The product of two coordinates. -/
def mul (a b : Nat) : Nat := a * b % fieldPrime

/-- The sum of two coordinates. -/
def add (a b : Nat) : Nat := (a + b) % fieldPrime

/-- The difference of two coordinates. -/
def sub (a b : Nat) : Nat := (a + (fieldPrime - b % fieldPrime)) % fieldPrime

/-- A point that is not at infinity. -/
structure Point where
  x : Nat
  y : Nat
  deriving Repr, DecidableEq

/-- The point that all others are multiples of. -/
def generator : Point where
  x := 0x79BE667EF9DCBBAC55A06295CE870B07029BFCDB2DCE28D959F2815B16F81798
  y := 0x483ADA7726A3C4655DA4FBFC0E1108A8FD17B448A68554199C47D08FFB10D4B8

/-- A point in weighted coordinates; it is at infinity if `z` is zero. -/
structure Weighted where
  x : Nat
  y : Nat
  z : Nat
  deriving Repr, DecidableEq

namespace Weighted

/-- The point at infinity. -/
def infinity : Weighted := ⟨1, 1, 0⟩

/-- A point in weighted coordinates. -/
def ofPoint (p : Point) : Weighted := ⟨p.x, p.y, 1⟩

/-- The point in plain coordinates, unless it is at infinity. -/
def toPoint? (p : Weighted) : Option Point :=
  if p.z = 0 then none
  else
    let i := inverse p.z fieldPrime
    let i₂ := mul i i
    some ⟨mul p.x i₂, mul p.y (mul i₂ i)⟩

/-- Twice a point. -/
def double (p : Weighted) : Weighted :=
  if p.z = 0 || p.y = 0 then infinity
  else
    let a := mul p.x p.x
    let b := mul p.y p.y
    let c := mul b b
    let d := mul 2 (sub (sub (mul (add p.x b) (add p.x b)) a) c)
    let e := mul 3 a
    let x := sub (mul e e) (mul 2 d)
    ⟨x, sub (mul e (sub d x)) (mul 8 c), mul 2 (mul p.y p.z)⟩

/-- The sum of two points. -/
def plus (p q : Weighted) : Weighted :=
  if p.z = 0 then q
  else if q.z = 0 then p
  else
    let p₂ := mul p.z p.z
    let q₂ := mul q.z q.z
    let u := mul p.x q₂
    let s := mul p.y (mul q.z q₂)
    let h := sub (mul q.x p₂) u
    let r := sub (mul q.y (mul p.z p₂)) s
    if h = 0 then if r = 0 then double p else infinity
    else
      let h₂ := mul h h
      let h₃ := mul h h₂
      let v := mul u h₂
      let x := sub (sub (mul r r) h₃) (mul 2 v)
      ⟨x, sub (mul r (sub v x)) (mul s h₃), mul h (mul p.z q.z)⟩

/-- The multiple of a point by a number. -/
def times (n : Nat) (p : Weighted) : Weighted :=
  if n = 0 then infinity
  else
    let even := double (times (n / 2) p)
    if n % 2 = 1 then plus even p else even
termination_by n

end Weighted

namespace Point

/-- The multiple of the generator by a number, unless it is at infinity. -/
def ofScalar? (n : Nat) : Option Point := (Weighted.times n (.ofPoint generator)).toPoint?

/-- The coordinates of a point, 32 bytes each. -/
def coordinates (p : Point) : Bytes := Bytes.bigEndian 32 p.x ++ Bytes.bigEndian 32 p.y

/-- The right side of the equation of the curve. -/
def cubic (x : Nat) : Nat := add (mul x (mul x x)) 7

/-- Whether numbers are the coordinates of a point. -/
def isOnCurve (x y : Nat) : Bool := x < fieldPrime && y < fieldPrime && mul y y = cubic x

/-- The point with the given `x` and the given parity of `y`. -/
def lift? (x : Nat) (odd : Bool) : Option Point :=
  let root := powMod (cubic x) ((fieldPrime + 1) / 4) fieldPrime
  let y := if (root % 2 = 1) = odd then root else sub 0 root
  if isOnCurve x y then some ⟨x, y⟩ else none

/-- Reads a point: 02 or 03 and `x`, 04 and both coordinates, or 06 or 07 and both; the last bit
of the first byte is the parity of `y` except behind 04. -/
def ofBytes? : Bytes → Option Point
  | [] => none
  | form :: rest =>
    if rest.length = 32 && (form = 2 || form = 3) then
      lift? (Bytes.natOfBigEndian rest) (form = 3)
    else if rest.length = 64 && (form = 4 || form = 6 || form = 7) then
      let x := Bytes.natOfBigEndian (rest.take 32)
      let y := Bytes.natOfBigEndian (rest.drop 32)
      if isOnCurve x y && (form = 4 || y % 2 = form.toNat % 2) then some ⟨x, y⟩ else none
    else none

end Point

end QuoteProver.Crypto.Secp256k1
