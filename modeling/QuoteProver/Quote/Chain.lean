import QuoteProver.Der.Certificate
import QuoteProver.Collateral.Catalog
import QuoteProver.Quote.Failure
import QuoteProver.Text.Hex

/-!
# Certificate chains of quotes

A quote ends in a chain of PEM certificates, the one of the platform first.  `chain` reads it;
`authority` tells who issued a certificate, and `platformEntries` splits the extension that
identifies the platform into its entries, among them the FMSPC.
-/

namespace QuoteProver.Quote

open Der

/-- The identifier of the common name in names. -/
def commonName : Oid := .ofArcs [2, 5, 4, 3]

/-- The identifier of the extension that identifies the platform. -/
def platformExtension : Oid := .ofArcs [1, 2, 840, 113741, 1, 13, 1]

/-- The identifier of the FMSPC in that extension. -/
def fmspcEntry : Oid := .ofArcs [1, 2, 840, 113741, 1, 13, 1, 4]

/-- The certificate in a block. -/
def certificateOf (block : Text.Pem.Block) : Except Failure Certificate :=
  if block.label ≠ "CERTIFICATE" then .error (.blockLabel block.label)
  else match Certificate.ofDer block.contents with
    | some c => .ok c
    | none => .error .certificate

/-- The certificates in the PEM blocks of a byte string. -/
def chain (data : Bytes) : Except Failure (List Certificate) := do
  let blocks ← (Text.Pem.parseMany data).mapError .pem
  blocks.mapM certificateOf

/-- The common name of the issuer of a certificate. -/
def issuerName (c : Certificate) : Option String := do
  let attr ← Certificate.firstAttribute c.issuer commonName
  Text.Utf8.decode? attr.value.contents

/-- The authority that issued the certificate of a platform. -/
def authority (c : Certificate) : Except Failure Collateral.Authority :=
  match issuerName c with
  | some "Intel SGX PCK Platform CA" => .ok .platform
  | some "Intel SGX PCK Processor CA" => .ok .processor
  | some other => .error (.unknownIssuer other)
  | none => .error (.unknownIssuer "")

/-! ## The platform extension -/

/-- An entry of the platform extension. -/
structure PlatformEntry where
  id : Oid
  value : Bytes
  deriving Repr, DecidableEq

/-- A value, or a failure at the given place of the extension. -/
def orAsn1 {α : Type} (place : String) : Option α → Except Failure α
  | some a => .ok a
  | none => .error (.asn1 place)

/-- The elements of a sequence. -/
def sequenceElements (e : Element) : Option (List Element) :=
  if e.tag = sequenceTag then elements e.contents else none

/-- Reads an entry: a sequence that starts with an identifier and a value. -/
def platformEntry (e : Element) : Except Failure PlatformEntry := do
  let parts ← orAsn1 "SGX extension entry" (sequenceElements e)
  let id ← orAsn1 "SGX extension entry oid" parts[0]?
  let value ← orAsn1 "SGX extension entry value" parts[1]?
  let id ← orAsn1 "SGX extension entry oid" (Oid.ofBytes? id.contents)
  return { id, value := value.contents }

/-- Splits the platform extension into its entries; bytes behind the sequence are left out. -/
def platformEntries (raw : Bytes) : Except Failure (List PlatformEntry) := do
  let (outer, _) ← orAsn1 "SGX extension" (Element.read raw)
  let entries ← orAsn1 "SGX extension sequence" (sequenceElements outer)
  entries.mapM platformEntry

/-- The hexadecimal FMSPC among the entries. -/
def fmspc (entries : List PlatformEntry) : Option String :=
  (entries.find? (·.id = fmspcEntry)).map fun entry => Text.Hex.encode entry.value

/-- The entries of the platform extension of a certificate, if it has one. -/
def certificateEntries (c : Certificate) : Except Failure (Option (List PlatformEntry)) :=
  match c.extensionValue platformExtension with
  | none => .ok none
  | some raw => (platformEntries raw).map some

end QuoteProver.Quote
