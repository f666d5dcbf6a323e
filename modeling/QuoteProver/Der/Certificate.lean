import QuoteProver.Der.Reader

/-!
# X.509 certificates

`Certificate.ofDer` reads a certificate and checks its structure down to the primitive types.
Signatures, keys and the types of names are left as they are.  The attributes of one part of a
name are a set and stand in the order of their encodings.
-/

namespace QuoteProver.Der

/-- An attribute of a name; the value keeps its bytes whatever its type. -/
structure Attribute where
  type : Oid
  value : Element
  deriving Repr, DecidableEq

/-- A name: parts, each a set of attributes. -/
abbrev Name := List (List Attribute)

/-- An extension of a certificate. -/
structure Extension where
  id : Oid
  critical : Bool
  value : Bytes
  deriving Repr, DecidableEq

/-- A certificate, as far as its issuer and extensions go. -/
structure Certificate where
  issuer : Name
  subject : Name
  extensions : List Extension
  deriving Repr, DecidableEq

namespace Certificate

open Reader

/-! ## Sets -/

/-- Puts an element of a set at its place in the order of spellings; nothing if its spelling is
there already. -/
def insertSpelt {α : Type} (new : Bytes × α) : List (Bytes × α) → Option (List (Bytes × α))
  | [] => some [new]
  | old :: rest =>
    if Bytes.lexLt new.1 old.1 then some (new :: old :: rest)
    else if new.1 = old.1 then none
    else (insertSpelt new rest).map (old :: ·)

/-- The elements of a set in the order of their spellings. -/
def sortSpelt {α : Type} : List (Bytes × α) → Option (List (Bytes × α))
  | [] => some []
  | new :: rest => do insertSpelt new (← sortSpelt rest)

/-- Reads the elements of a set. -/
def setOf {α : Type} (r : Reader α) : Reader (List α) := do
  return (← sortSpelt (← many r.spelt)).map (·.2)

/-! ## Parts -/

/-- An attribute of a name: its type and its value. -/
def nameAttribute : Reader Attribute := inside sequenceTag do return { type := ← oid, value := ← any }

/-- A name: sets of attributes. -/
def name : Reader Name := inside sequenceTag (many (inside 0x31 (setOf nameAttribute)))

/-- An algorithm with at most one parameter. -/
def algorithm : Reader Unit := inside sequenceTag do
  let _ ← oid
  if (← peek).isSome then discard any

/-- The version: 0, 1 or 2. -/
def version : Reader Unit := do
  match ← integer with
  | [n] => guard (n ≤ 2)
  | _ => failure

/-- A serial number of at most 21 octets. -/
def serialNumber : Reader Unit := do guard ((← integer).length ≤ 21)

/-- The times between which a certificate holds. -/
def validity : Reader Unit := inside sequenceTag (do time; time)

/-- A public key with its algorithm. -/
def publicKey : Reader Unit := inside sequenceTag do
  algorithm
  discard (bits 0x03)

/-- An extension, which is not critical unless it says so. -/
def extension : Reader Extension := inside sequenceTag do
  let id ← oid
  let critical ← optionally 0x01 boolean
  return { id, critical := critical.getD false, value := ← element 0x04 }

/-- The signed part of a certificate. -/
def signedPart : Reader Certificate := inside sequenceTag do
  discard (numbered 0 (inside 0xA0 version))
  serialNumber
  algorithm
  let issuer ← name
  validity
  let subject ← name
  publicKey
  discard (numbered 1 (bits 0x81))
  discard (numbered 2 (bits 0x82))
  let extensions ← numbered 3 (inside 0xA3 (inside sequenceTag (many extension)))
  return { issuer, subject, extensions := extensions.getD [] }

/-- A certificate: the signed part, the algorithm of the signature and the signature. -/
def certificate : Reader Certificate := inside sequenceTag do
  let c ← signedPart
  algorithm
  discard (bits 0x03)
  return c

/-- Reads a certificate that is the whole of a byte string. -/
def ofDer (data : Bytes) : Option Certificate := certificate.whole data

/-! ## Contents -/

/-- The first attribute of a name with the given type. -/
def firstAttribute (name : Name) (type : Oid) : Option Attribute :=
  name.flatten.find? (·.type = type)

/-- The value of the first extension with the given identifier. -/
def extensionValue (c : Certificate) (id : Oid) : Option Bytes :=
  (c.extensions.find? (·.id = id)).map (·.value)

end Certificate

end QuoteProver.Der
