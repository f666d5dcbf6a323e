import QuoteProver.Bytes

/-!
# Object identifiers

An `Oid` holds the contents of a DER object identifier: the two first arcs in one byte, then each
arc in groups of seven bits, all but the last group with the high bit set.  `Oid.ofBytes?` checks
such contents, `Oid.ofArcs` writes them and `Oid.dotted` shows the arcs.
-/

namespace QuoteProver.Der

/-- An object identifier. -/
structure Oid where
  bytes : Bytes
  deriving Repr, DecidableEq

namespace Oid

/-- The arcs behind the first byte, of which `count` bytes are read and give `value`.  A fifth
byte may only hold four bits; arcs keep their low 32 bits. -/
def readArcs (value count : Nat) : Bytes → Option (List Nat)
  | [] => if count = 0 then some [] else none
  | b :: rest =>
    if 4 ≤ count && 16 ≤ b then none
    else
      let value := (value * 128 + b.toNat % 128) % Nat.pow 2 32
      if b < 128 then (readArcs 0 0 rest).map (value :: ·) else readArcs value (count + 1) rest

/-- The arcs of the contents of an identifier. -/
def arcs? : Bytes → Option (List Nat)
  | [] => none
  | b :: rest =>
    if b < 120 then (readArcs 0 0 rest).map fun arcs => b.toNat / 40 :: b.toNat % 40 :: arcs
    else none

/-- The identifier with the given contents, which are 3 to 39 bytes. -/
def ofBytes? (bytes : Bytes) : Option Oid :=
  if 3 ≤ bytes.length && bytes.length ≤ 39 && (arcs? bytes).isSome then some ⟨bytes⟩ else none

/-- The groups of seven bits of an arc. -/
def arcBytes (last : Bool) (n : Nat) : Bytes :=
  (if h : n < 128 then [] else arcBytes false (n / 128)) ++
    [UInt8.ofNat (n % 128 + if last then 0 else 128)]
termination_by n

/-- The identifier with the given arcs. -/
def ofArcs : List Nat → Oid
  | first :: second :: arcs => ⟨UInt8.ofNat (first * 40 + second) :: arcs.flatMap (arcBytes true)⟩
  | _ => ⟨[]⟩

/-- The arcs with points between them. -/
def dotted (oid : Oid) : String :=
  ".".intercalate (((arcs? oid.bytes).getD []).map toString)

end Oid

end QuoteProver.Der
