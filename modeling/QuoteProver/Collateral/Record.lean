import QuoteProver.Collateral.Catalog
import QuoteProver.Json.Record

/-!
# Signed records

A TCB info or an enclave identity comes as a JSON record with a signature over the spelling of its
contents.  A `SignedRecord` keeps that spelling as it is.
-/

namespace QuoteProver.Collateral

/-- What a signed record is about. -/
inductive Subject where
  | tcbInfo
  | enclaveIdentity
  deriving Repr, DecidableEq

/-- The member of a signed record that holds its contents. -/
def Subject.member : Subject → String
  | tcbInfo => "tcbInfo"
  | enclaveIdentity => "enclaveIdentity"

/-- The spelling of signed contents with its signature. -/
structure SignedRecord where
  raw : String
  signature : Bytes
  deriving Repr, DecidableEq

namespace SignedRecord

/-- The JSON record of signed contents. -/
def document (subject : Subject) (r : SignedRecord) : Json.Document :=
  .object [(subject.member, .spelt r.raw), ("signature", .hex r.signature)]

/-- The text that the guest reads. -/
def encode (subject : Subject) (r : SignedRecord) : String := (r.document subject).compact

/-- Reads a record: the text of its subject as it stands, and the signature over that. -/
def ofNode (subject : Subject) (node : Json.Node) : Option SignedRecord := do
  match ← node.record? [subject.member, "signature"] [] with
  | [some (raw, _), signature] =>
    return { raw := ← Text.Utf8.decode? raw,
             signature := ← Json.Node.member Json.Node.hexBytes? signature }
  | _ => none

end SignedRecord

/-- The authority that a JSON value names. -/
def Authority.ofNode (node : Json.Node) : Option Authority :=
  node.choice? (all.map fun a => (a.name, a))

/-- The kind of TCB info that a JSON value names. -/
def TcbKind.ofNode (node : Json.Node) : Option TcbKind :=
  node.choice? (all.map fun k => (k.name, k))

/-- The kind of enclave identity that a JSON value names. -/
def EnclaveKind.ofNode (node : Json.Node) : Option EnclaveKind :=
  node.choice? (all.map fun k => (k.name, k))

end QuoteProver.Collateral
