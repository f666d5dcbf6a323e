import QuoteProver.Crypto.Secp256k1
import QuoteProver.Crypto.Sha256

/-!
# Deterministic ECDSA signatures

`sign` signs a digest over secp256k1.  The secret number of a signature follows from the key and
the digest by the generator of RFC 6979 over HMAC-SHA256.  Of the two values of `s` the smaller
one is taken, and `recovery` tells the point that belongs to `r`.
-/

namespace QuoteProver.Crypto.Ecdsa

open Secp256k1

/-- A signature; `recovery` holds the parity of `y` of the point behind `r`, and whether its `x` is
not below the order, in the next bit. -/
structure Signature where
  r : Nat
  s : Nat
  recovery : Nat
  deriving Repr, DecidableEq

/-- The state of the generator of secret numbers. -/
structure Generator where
  key : Bytes
  value : Bytes
  deriving Repr, DecidableEq

namespace Generator

/-- Mixes data into the state. -/
def mix (g : Generator) (data : Bytes) : Generator :=
  let key := hmacSha256 g.key (g.value ++ data)
  { key, value := hmacSha256 key g.value }

/-- The state for a key and a digest, both as 32 bytes. -/
def seed (secret digest : Bytes) : Generator :=
  let start : Generator := { key := List.replicate 32 0, value := List.replicate 32 1 }
  (start.mix (0x00 :: secret ++ digest)).mix (0x01 :: secret ++ digest)

/-- The next number, and the state after it. -/
def next (g : Generator) : Nat × Generator :=
  let value := hmacSha256 g.key g.value
  (Bytes.natOfBigEndian value, { g with value })

end Generator

/-- The signature with a given secret number, unless that number or a part of the signature is
out of range. -/
def signWith? (secret digest nonce : Nat) : Option Signature := do
  if nonce = 0 || order ≤ nonce then none else
  let point ← Point.ofScalar? nonce
  let r := point.x % order
  let s := inverse nonce order * ((digest + r * secret) % order) % order
  if r = 0 || s = 0 then none else
  let recovery := (if order ≤ point.x then 2 else 0) + point.y % 2
  if order / 2 < s then some ⟨r, order - s, recovery + 1 - 2 * (recovery % 2)⟩
  else some ⟨r, s, recovery⟩

/-- The number of candidates that are tried; in practice the first one serves. -/
def attempts : Nat := 64

/-- The signature with the first number of the generator that gives one. -/
def signFrom (secret digest : Nat) : (fuel : Nat) → Generator → Option Signature
  | 0, _ => none
  | fuel + 1, g =>
    let (nonce, g) := g.next
    match signWith? secret digest nonce with
    | some signature => some signature
    | none => signFrom secret digest fuel (g.mix [0x00])

/-- The signature of a digest of 32 bytes under a secret number. -/
def sign (secret : Nat) (digest : Bytes) : Signature :=
  let number := Bytes.natOfBigEndian digest % order
  (signFrom secret number attempts
    (.seed (Bytes.bigEndian 32 secret) (Bytes.bigEndian 32 number))).getD ⟨0, 0, 0⟩

end QuoteProver.Crypto.Ecdsa
