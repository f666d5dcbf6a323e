import QuoteProver.Config.Backends
import QuoteProver.Prover.Exchange
import QuoteProver.Prover.Poller
import QuoteProver.Prover.Proof
import QuoteProver.Succinct.Account
import QuoteProver.Succinct.Download
import QuoteProver.Succinct.Message

/-!
# The prover network

A `Client` creates a request for a proof, uploads the guest and its input, submits the request,
waits until a prover has fulfilled it and downloads the proof.  Creation and submission are signed
by the account of the user, each with a nonce that was asked for just before.
-/

namespace QuoteProver.Succinct

open Prover

/-- The part of the program that the log entries come from. -/
def source : String := "zkdcap::prover::sp1"

/-- The path of the calls of the network. -/
def servicePath : String := "network.NetworkService/"

/-- The seconds for which a request for a proof stands. -/
def deadlineWindow : UInt64 := 10

/-- A user of the network. -/
structure Client where
  /-- The rules for international names in addresses. -/
  toAscii : Web.DomainToAscii := some
  rpc : Web.Url
  account : Account
  /-- The version of the circuits to prove with. -/
  version : String
  /-- The guest, or why there is none. -/
  program : Except Failure Bytes
  poller : Poller

namespace Client

/-- The guest that a configuration names, where `read` gives the contents of files. -/
def configuredProgram (read : String → Option Bytes) (config : Config.Succinct) :
    Except Failure Bytes :=
  match config.programPath with
  | none => .error (.invalidConfig "sp1 program_path not configured")
  | some path => match read path with
    | some program => .ok program
    | none => .error (.unreadable path)

/-- The user that a complete configuration describes, where `read` gives the contents of files. -/
def ofConfig (read : String → Option Bytes) (config : Config.Succinct)
    (toAscii : Web.DomainToAscii := some) : Except Failure Client := do
  return { toAscii
           rpc := ← address toAscii config.rpc
           account := ← Account.ofHex config.privateKey
           version := config.version
           program := configuredProgram read config
           poller := .every (config.pollInterval.toNat * 1000) }

/-! ## Calls -/

/-- The address of a call. -/
def callAddress (c : Client) (name : String) : Except Failure Web.Url := do
  addressUnder c.toAscii (← addressUnder c.toAscii c.rpc servicePath) name

/-- A call with what it says. -/
structure Call where
  name : String
  document : Json.Document

/-- The request that makes a call. -/
def callRequest (c : Client) (call : Call) : Except Failure Web.Request := do
  return { method := .post, url := ← c.callAddress call.name, body := .json call.document }

/-- What is logged when a call is made. -/
def calling : Log.Entry := { level := .debug, source, message := "rpc call" }

/-- Makes a call and reads the record of its answer. -/
def call {α : Type} (c : Client) (call : Call) (read : Json.Node → Option α) : Work α := do
  let request ← Session.orFail (c.callRequest call)
  Session.record [calling]
  fetchRecord read request

/-- Asks for the nonce of the account. -/
def getNonce (c : Client) : Work UInt64 := do
  let nonce ← c.call ⟨"GetNonce", nonceRequest c.account.address⟩ nonceOfNode
  Session.note .info source "fetched nonce"
  return nonce

/-- The signed request for a proof. -/
def createRequest (c : Client) (nonce deadline : UInt64) (mode : ProofMode) : CreateRequest where
  signature := c.account.sign (.createProof nonce deadline mode.code c.version)
  nonce := nonce
  mode := mode.code
  deadline := deadline
  circuitVersion := c.version

/-- The signed submission of a request. -/
def submitRequest (c : Client) (nonce : UInt64) (proofId : String) : SubmitRequest where
  signature := c.account.sign (.submitProof nonce proofId)
  nonce := nonce
  proofId := proofId

/-- Stores bytes at a location that the network has named. -/
def upload (c : Client) (location : String) (bytes : Bytes) : Work Unit := do
  let url ← Session.orFail (address c.toAscii location)
  let _ ← fetchBody { method := .put, url, body := .raw bytes }

/-- Creates a request for a proof, uploads its artifacts and submits it. -/
def createProof (c : Client) (program : Bytes) (stdin : Stdin) (mode : ProofMode) :
    Work String := do
  let nonce ← c.getNonce
  let deadline := (← Session.now) + deadlineWindow
  let created ← c.call ⟨"CreateProof", (c.createRequest nonce deadline mode).document⟩
    CreatedProof.ofNode
  Session.note .info source "created proof request"
  Session.note .info source "uploading program"
  c.upload created.programUrl (Codec.Format.bytes.encode program)
  Session.note .info source "uploading stdin"
  c.upload created.stdinUrl (Stdin.format.encode stdin)
  let nonce ← c.getNonce
  c.call ⟨"SubmitProof", (c.submitRequest nonce created.proofId).document⟩ submittedOfNode
  Session.note .info source "submitted proof request"
  return created.proofId

/-! ## Waiting for the proof -/

/-- The call that asks for the status of a request. -/
def statusCall (proofId : String) : Call := ⟨"GetProofStatus", statusRequest proofId⟩

/-- Asks for the status of a request. -/
def getProofStatus (c : Client) (proofId : String) : Work StatusReport :=
  c.call (statusCall proofId) StatusReport.ofNode

/-- What a report means; a fulfilled request is of use only if it says where its proof is, and that
a prover has claimed the request is logged once. -/
def proofStep (claimed : Bool) (report : StatusReport) : List Log.Entry × Step Bool String :=
  match ProofStatus.ofText report.status with
  | .fulfilled => match report.proofUrl with
    | some location =>
      if location.isEmpty then ([], .failed (.missingResult "proof request"))
      else ([], .ready location)
    | none => ([], .failed (.missingResult "proof request"))
  | .claimed =>
    (if claimed then []
      else [{ level := .info, source, message := "proof request claimed, proving" }],
      .pending true)
  | .unclaimed =>
    ([], .failed (.unclaimed (report.unclaimReason.getD "")
      (report.unclaimDescription.getD "")))
  | _ => ([{ level := .info, source, message := "proof request is running" }], .pending claimed)

/-- A submitted request, seen by an observer that knows whether it has been claimed. -/
def proofMachine (c : Client) (proofId : String) :
    Machine Web.Request Web.Answer Bool StatusReport String where
  question := do sendable (← c.callRequest (statusCall proofId))
  announce request := [calling, sending request]
  status := recordOf StatusReport.ofNode
  advance := proofStep

/-- Waits for the proof of a submitted request and downloads it. -/
def pollProof (c : Client) (proofId : String) : Work ProofWithPublicValues := do
  let location ← c.poller.run (c.proofMachine proofId) false
  Session.note .info source "proof fulfilled"
  let url ← Session.orFail (address c.toAscii location)
  let bytes ← fetchBody { method := .get, url }
  Session.orFail (ProofWithPublicValues.ofDownload bytes)

/-! ## Proving -/

/-- Proves the guest on an input. -/
def prove (c : Client) (input : Bytes) : Work RawProof := do
  let program ← Session.orFail c.program
  let proofId ← c.createProof program (.ofInput input) .groth16
  let result ← c.pollProof proofId
  let proof ← Session.orFail result.contractBytes
  return { output := result.publicValues, proof }

end Client

end QuoteProver.Succinct
