import QuoteProver.Bonsai.Message
import QuoteProver.Bonsai.Receipt
import QuoteProver.Config.Backends
import QuoteProver.Prover.Exchange
import QuoteProver.Prover.Poller
import QuoteProver.Prover.Proof

/-!
# The proving service

A `Client` uploads an input, has a session run the guest on it, has the receipt of the session
wrapped into a short proof, and downloads the result.  Both jobs are polled.
-/

namespace QuoteProver.Bonsai

open Prover

/-- The part of the program that the log entries come from. -/
def source : String := "zkdcap::prover::risc0"

/-- A user of the service. -/
structure Client where
  /-- The rules for international names in addresses. -/
  toAscii : Web.DomainToAscii := some
  base : Web.Url
  /-- The headers of every request: the key and the version of the machine. -/
  headers : List (String × String)
  imageId : String
  poller : Poller

namespace Client

/-- The user that a complete configuration describes. -/
def ofConfig (config : Config.Bonsai) (toAscii : Web.DomainToAscii := some) :
    Except Failure Client := do
  if !Web.isHeaderText config.apiKey then
    throw (.invalidConfig "bonsai api key is not a header value")
  if !Web.isHeaderText config.version then
    throw (.invalidConfig "risc0 version is not a header value")
  return { toAscii
           base := ← address toAscii config.apiUrl
           headers := [("x-api-key", config.apiKey), ("x-risc0-version", config.version)]
           imageId := config.imageId
           poller := .every (config.pollInterval.toNat * 1000) }

/-! ## Requests -/

/-- A request for what is at an address. -/
def download (c : Client) (url : Web.Url) : Web.Request :=
  { method := .get, url, headers := c.headers }

/-- A request that stores bytes at an address. -/
def upload (c : Client) (url : Web.Url) (bytes : Bytes) : Web.Request :=
  { method := .put, url, headers := c.headers, body := .raw bytes }

/-- A request that creates something at an address. -/
def creation (c : Client) (url : Web.Url) (document : Json.Document) : Web.Request :=
  { method := .post, url, headers := c.headers, body := .json document }

/-- The question for the status of a job under a path. -/
def statusQuestion (c : Client) (path : String) : Except Failure Web.Request := do
  sendable (c.download (← addressUnder c.toAscii c.base path))

/-! ## Steps -/

/-- Uploads an input and gives its identifier. -/
def uploadInput (c : Client) (input : Bytes) : Work String := do
  let url ← Session.orFail (addressUnder c.toAscii c.base "inputs/upload")
  let slot ← fetchRecord UploadSlot.ofNode (c.download url)
  let url ← Session.orFail (address c.toAscii slot.url)
  let _ ← fetchBody (c.upload url input)
  Session.note .info source "uploaded input"
  return slot.uuid

/-- Starts a session on an uploaded input and gives its identifier. -/
def createSession (c : Client) (input : String) : Work String := do
  let url ← Session.orFail (addressUnder c.toAscii c.base "sessions/create")
  let request : SessionRequest := { image := c.imageId, input }
  let id ← fetchRecord createdId (c.creation url request.document)
  Session.note .info source "created session"
  return id

/-- Starts to wrap the receipt of a session and gives the identifier of the job. -/
def createSnark (c : Client) (session : String) : Work String := do
  let url ← Session.orFail (addressUnder c.toAscii c.base "snark/create")
  let id ← fetchRecord createdId (c.creation url (snarkRequest session))
  Session.note .info source "created snark job"
  return id

/-- Downloads the receipt of a finished job. -/
def downloadReceipt (c : Client) (location : String) : Work Receipt := do
  let url ← Session.orFail (address c.toAscii location)
  let bytes ← fetchBody (c.download url)
  Session.orFail ((Receipt.format.decodeFront bytes).mapError (.decode "receipt"))

/-! ## Jobs -/

/-- What a report of a session means. -/
def sessionStep (report : SessionReport) : List Log.Entry × Step Unit Unit :=
  match JobStatus.ofText report.status with
  | .succeeded => ([], .ready ())
  | .failed status => ([], .failed (.jobFailed "session" status (report.errorMessage.getD "")))
  | .running => ([{ level := .debug, source, message := "session running" }], .pending ())

/-- A session that runs the guest. -/
def sessionMachine (c : Client) (id : String) :
    Machine Web.Request Web.Answer Unit SessionReport Unit where
  question := c.statusQuestion ("sessions/status/" ++ id)
  announce request := [sending request]
  status := recordOf SessionReport.ofNode
  advance _ := sessionStep

/-- What a report of a job that makes a short proof means; the job is of use only if it says where
its receipt is. -/
def snarkStep (report : SnarkReport) : List Log.Entry × Step Unit String :=
  match JobStatus.ofText report.status with
  | .succeeded => match report.output with
    | some location =>
      if location.isEmpty then ([], .failed (.missingResult "snark job"))
      else ([], .ready location)
    | none => ([], .failed (.missingResult "snark job"))
  | .failed status => ([], .failed (.jobFailed "snark job" status (report.errorMessage.getD "")))
  | .running => ([{ level := .debug, source, message := "snark running" }], .pending ())

/-- A job that makes a short proof. -/
def snarkMachine (c : Client) (id : String) :
    Machine Web.Request Web.Answer Unit SnarkReport String where
  question := c.statusQuestion ("snark/status/" ++ id)
  announce request := [sending request]
  status := recordOf SnarkReport.ofNode
  advance _ := snarkStep

/-! ## Proving -/

/-- Has a receipt made for an input. -/
def proveReceipt (c : Client) (input : Bytes) : Work Receipt := do
  let inputId ← c.uploadInput input
  let session ← c.createSession inputId
  c.poller.run (c.sessionMachine session) ()
  Session.note .info source "session succeeded"
  let snark ← c.createSnark session
  let location ← c.poller.run (c.snarkMachine snark) ()
  Session.note .info source "snark succeeded"
  c.downloadReceipt location

/-- Proves the guest on an input; of the receipt only the journal and the seal count. -/
def prove (c : Client) (input : Bytes) : Work RawProof := do
  let receipt ← c.proveReceipt input
  return { output := receipt.journal,
           proof := groth16Encode receipt.inner.groth16Receipt.proofSeal }

end Client

end QuoteProver.Bonsai
