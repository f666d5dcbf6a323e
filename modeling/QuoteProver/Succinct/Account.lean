import QuoteProver.Crypto.Ecdsa
import QuoteProver.Crypto.Keccak
import QuoteProver.Prover.Failure
import QuoteProver.Text.Blank

/-!
# Accounts and signed messages

Requests that change something are signed by an `Account` of the prover network.  A `TypedMessage`
is hashed field by field together with its type (`structHash`) and then with the domain of the
network (`signingHash`), and `Account.sign` signs that hash.
-/

namespace QuoteProver.Succinct

open Crypto Prover

/-! ## Messages -/

/-- What an account signs. -/
inductive TypedMessage where
  | createProof (nonce deadline : UInt64) (mode : UInt32) (version : String)
  | submitProof (nonce : UInt64) (proofId : String)
  deriving Repr, DecidableEq

/-- A number as a word of 32 bytes. -/
def word (n : Nat) : Bytes := Bytes.bigEndian 32 n

/-- The word that stands for a text: its hash. -/
def textWord (text : String) : Bytes := keccak256 (Text.Utf8.encode text)

namespace TypedMessage

/-- The type of a message with the types and names of its fields. -/
def type : TypedMessage → String
  | createProof .. => "CreateProof(uint64 nonce,uint64 deadline,uint32 mode,string version)"
  | submitProof .. => "SubmitProof(uint64 nonce,string proof_id)"

/-- The words of the fields in order. -/
def words : TypedMessage → List Bytes
  | createProof nonce deadline mode version =>
    [word nonce.toNat, word deadline.toNat, word mode.toNat, textWord version]
  | submitProof nonce proofId => [word nonce.toNat, textWord proofId]

/-- The hash of a message: of its type and its words. -/
def structHash (m : TypedMessage) : Bytes := keccak256 (textWord m.type ++ m.words.flatten)

end TypedMessage

/-- The hash of the domain that messages are signed for: its name and version. -/
def domainSeparator : Bytes :=
  keccak256 (textWord "EIP712Domain(string name,string version)" ++ textWord "succinct" ++
    textWord "1")

/-- The hash that is signed for a message. -/
def TypedMessage.signingHash (m : TypedMessage) : Bytes :=
  keccak256 ([0x19, 0x01] ++ domainSeparator ++ m.structHash)

/-! ## Accounts -/

/-- The address of a public key: the last 20 bytes of the hash of its coordinates. -/
def addressOf (point : Secp256k1.Point) : Bytes := (keccak256 point.coordinates).drop 12

/-- The address of a written public key. -/
def addressOfKey (key : Bytes) : Except Failure Bytes :=
  match Secp256k1.Point.ofBytes? key with
  | some point => .ok (addressOf point)
  | none => .error (.signing .publicKey)

/-- An account of the prover network. -/
structure Account where
  /-- The secret number, which is positive and below the order of the curve. -/
  secret : Nat
  /-- The public key that belongs to it. -/
  publicKey : Secp256k1.Point
  deriving DecidableEq

namespace Account

/-- The address of an account. -/
def address (a : Account) : Bytes := addressOf a.publicKey

/-- The account of a secret number. -/
def ofSecret (secret : Nat) : Except Failure Account :=
  if 0 < secret && secret < Secp256k1.order then
    match Secp256k1.Point.ofScalar? secret with
    | some publicKey => .ok { secret, publicKey }
    | none => .error (.signing .secretKey)
  else .error (.signing .secretKey)

/-- The digits of a written key: white space around it and `0x` in front do not count. -/
def keyDigits (text : String) : List Char :=
  match Text.trim text.toList with
  | '0' :: 'x' :: digits => digits
  | digits => digits

/-- The account of a key in hexadecimal digits. -/
def ofHex (text : String) : Except Failure Account := do
  let bytes ← (Text.Hex.decode (String.ofList (keyDigits text))).mapError .fromHex
  if bytes.length ≠ 32 then throw (.invalidConfig "private key must be 32 bytes")
  ofSecret (Bytes.natOfBigEndian bytes)

/-- The signature of a message: `r`, `s`, and 27 more than the number that recovers the key. -/
def sign (a : Account) (m : TypedMessage) : Bytes :=
  let signature := Ecdsa.sign a.secret m.signingHash
  Bytes.bigEndian 32 signature.r ++ Bytes.bigEndian 32 signature.s ++
    [UInt8.ofNat (27 + signature.recovery)]

/-- An account as messages show it: without its secret number. -/
def describe (label : String) (a : Account) : String :=
  label ++ " \x7b address: " ++ Text.quoteString (Text.Hex.encode a.address) ++ ", .. \x7d"

end Account

end QuoteProver.Succinct
