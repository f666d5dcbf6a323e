import QuoteProver.Json.Record
import QuoteProver.Text.Base64

/-!
# Messages of the prover network

The JSON bodies of calls to the network and the answers that it gives.  Byte strings travel in
Base64 and 64-bit numbers as decimal text.
-/

namespace QuoteProver.Succinct

open Json

/-- The kind of a proof. -/
inductive ProofMode where
  | unspecified
  | core
  | compressed
  | plonk
  | groth16
  deriving Repr, DecidableEq

/-- The number of a kind of proof in messages. -/
def ProofMode.code : ProofMode → UInt32
  | unspecified => 0
  | core => 1
  | compressed => 2
  | plonk => 3
  | groth16 => 4

/-! ## Requests -/

/-- Bytes as text in Base64. -/
def base64 (bytes : Bytes) : Document := .string (Text.Base64.encode bytes)

/-- A 64-bit number as decimal text. -/
def decimal (n : UInt64) : Document := .string (toString n.toNat)

/-- Asks for the nonce of an account. -/
def nonceRequest (address : Bytes) : Document := .object [("address", base64 address)]

/-- Asks for a proof. -/
structure CreateRequest where
  signature : Bytes
  nonce : UInt64
  mode : UInt32
  /-- The last moment at which a fulfilment counts, in Unix seconds. -/
  deadline : UInt64
  circuitVersion : String
  deriving Repr, DecidableEq

/-- The body of a request for a proof. -/
def CreateRequest.document (r : CreateRequest) : Document :=
  .object [("signature", base64 r.signature), ("nonce", decimal r.nonce),
    ("mode", .number r.mode.toNat), ("deadline", decimal r.deadline),
    ("circuit_version", .string r.circuitVersion)]

/-- Submits a created request to the provers. -/
structure SubmitRequest where
  signature : Bytes
  nonce : UInt64
  proofId : String
  deriving Repr, DecidableEq

/-- The document of a submission. -/
def SubmitRequest.document (r : SubmitRequest) : Document :=
  .object [("signature", base64 r.signature), ("nonce", decimal r.nonce),
    ("proof_id", .string r.proofId)]

/-- Asks for the status of a proof. -/
def statusRequest (proofId : String) : Document := .object [("proof_id", .string proofId)]

/-! ## Answers -/

/-- Reads the nonce of an account. -/
def nonceOfNode (node : Node) : Option UInt64 := do
  match ← node.record? ["nonce"] [] with
  | [nonce] => Node.member Node.decimalWord? nonce
  | _ => none

/-- A created request with the places to upload its artifacts to. -/
structure CreatedProof where
  proofId : String
  programUrl : String
  stdinUrl : String
  deriving Repr, DecidableEq

/-- Reads what was created. -/
def CreatedProof.ofNode (node : Node) : Option CreatedProof := do
  match ← node.record? ["proof_id", "program_url", "stdin_url"] [] with
  | [proofId, programUrl, stdinUrl] =>
    return { proofId := ← Node.member Node.text? proofId,
             programUrl := ← Node.member Node.text? programUrl,
             stdinUrl := ← Node.member Node.text? stdinUrl }
  | _ => none

/-- Reads the answer to a submission, a record without members. -/
def submittedOfNode (node : Node) : Option Unit := do
  let _ ← node.record? [] []

/-- The status of a proof. -/
structure StatusReport where
  status : String
  /-- The address of a fulfilled proof. -/
  proofUrl : Option String
  unclaimReason : Option String
  unclaimDescription : Option String
  deriving Repr, DecidableEq

/-- Reads the status of a proof; every member may be missing. -/
def StatusReport.ofNode (node : Node) : Option StatusReport := do
  let names := ["status", "proof_url", "unclaim_reason", "unclaim_description"]
  match ← node.record? names names with
  | [status, proofUrl, unclaimReason, unclaimDescription] =>
    let status ← match status with
      | some (_, node) => node.text?
      | none => some ""
    return { status,
             proofUrl := ← Node.optionalMember Node.text? proofUrl,
             unclaimReason := ← Node.optionalMember Node.text? unclaimReason,
             unclaimDescription := ← Node.optionalMember Node.text? unclaimDescription }
  | _ => none

/-! ## Status -/

/-- What a status means. -/
inductive ProofStatus where
  | unspecified
  | preparing
  | requested
  | claimed
  | unclaimed
  | fulfilled
  | other (status : String)
  deriving Repr, DecidableEq

/-- The status with a given spelling. -/
def ProofStatus.ofText (status : String) : ProofStatus :=
  match status with
  | "PROOF_UNSPECIFIED_STATUS" => .unspecified
  | "PROOF_PREPARING" => .preparing
  | "PROOF_REQUESTED" => .requested
  | "PROOF_CLAIMED" => .claimed
  | "PROOF_UNCLAIMED" => .unclaimed
  | "PROOF_FULFILLED" => .fulfilled
  | status => .other status

end QuoteProver.Succinct
