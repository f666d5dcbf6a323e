import QuoteProver.Collateral.Record
import QuoteProver.Quote.Failure

/-!
# Collateral

A `Collateral` holds everything that the guest needs besides the quote.  `encode` is its form for
the guest: seven lengths of four bytes, then the seven fields.  `document` is its JSON record.
-/

namespace QuoteProver

/-- What the guest needs besides the quote. -/
structure Collateral where
  tcbInfo : Bytes := []
  qeIdentity : Bytes := []
  rootCertificate : Bytes := []
  signingCertificate : Bytes := []
  rootCrl : Bytes := []
  /-- The revocation list of the processor authority; empty if the platform authority issued the
  certificate of the platform. -/
  processorCrl : Bytes := []
  /-- The revocation list of the platform authority; empty if the processor authority did. -/
  platformCrl : Bytes := []
  deriving Repr, DecidableEq

namespace Collateral

/-- Why collateral cannot be assembled. -/
inductive Failure where
  | quote (failure : Quote.Failure)
  /-- The source could not give an item; the reasons go from the outermost to the innermost. -/
  | source (item : String) (reasons : List String)
  | fieldTooLarge (field : String) (length : Nat)
  deriving Repr, DecidableEq

/-- The wording of a failure. -/
def Failure.message : Failure → String
  | quote failure => failure.message
  | source item reasons => s!"fetching {item}: " ++ ": ".intercalate reasons
  | fieldTooLarge field length => s!"collateral field {field} too large: {length} bytes"

/-- The names of the fields, in the order of their encoding. -/
def fieldNames : List String :=
  ["tcb_info", "qe_identity", "root_ca_der", "tcb_signing_der", "root_ca_crl_der",
    "pck_processor_crl_der", "pck_platform_crl_der"]

/-- The fields in the order of their names. -/
def fields (c : Collateral) : List Bytes :=
  [c.tcbInfo, c.qeIdentity, c.rootCertificate, c.signingCertificate, c.rootCrl, c.processorCrl,
    c.platformCrl]

/-- The length of a field, if it fits four bytes. -/
def fieldLength (name : String) (field : Bytes) : Except Failure Bytes :=
  if field.length < Nat.pow 2 32 then .ok (Bytes.littleEndian 4 field.length)
  else .error (.fieldTooLarge name field.length)

/-- The form for the guest: the lengths of all fields, and then the fields. -/
def encode (c : Collateral) : Except Failure Bytes := do
  let lengths ← (fieldNames.zip c.fields).mapM fun (name, field) => fieldLength name field
  return lengths.flatten ++ c.fields.flatten

/-- The collateral as a document, with its fields in hexadecimal digits. -/
def document (c : Collateral) : Json.Document :=
  .object ((fieldNames.zip c.fields).map fun (name, field) => (name, .hex field))

/-- Reads collateral from a document. -/
def ofNode (node : Json.Node) : Option Collateral := do
  match ← (← node.record? fieldNames []).mapM (Json.Node.member Json.Node.hexBytes?) with
  | [tcbInfo, qeIdentity, rootCertificate, signingCertificate, rootCrl, processorCrl,
      platformCrl] =>
    return { tcbInfo, qeIdentity, rootCertificate, signingCertificate, rootCrl, processorCrl,
             platformCrl }
  | _ => none

end Collateral

end QuoteProver
