import QuoteProver.Proofs.Prover.Following
import QuoteProver.Proofs.Prover.Hearing

/-!
# The protocol of the proving service

`Client.protocol` spells out, step by step, how the receipt of an input is made: which request comes
next, what it carries and what its answer has to say.  `prove_keeps_to_session_protocol` says that
`Client.prove` keeps to it whatever the service answers and whenever the caller gives up, that there is
nothing else that the protocol would allow then, and that it succeeds only if every step of it does.
-/

namespace QuoteProver.Bonsai

open Prover

namespace Client

/-! ## Requests -/

section Requests

variable (c : Client)

/-- A request for what is under the address of the service. -/
def getUnder (path : String) : Except Failure Web.Request := do
  sendable { method := .get, url := ← addressUnder c.toAscii c.base path, headers := c.headers }

/-- A request that creates something under the address of the service. -/
def postUnder (path : String) (document : Json.Document) : Except Failure Web.Request := do
  sendable { method := .post, url := ← addressUnder c.toAscii c.base path, headers := c.headers,
             body := .json document }

/-- A request that stores bytes at a location that the service has named. -/
def putTo (location : String) (bytes : Bytes) : Except Failure Web.Request := do
  sendable { method := .put, url := ← address c.toAscii location, headers := c.headers,
             body := .raw bytes }

/-- A request for what is at a location that the service has named. -/
def getFrom (location : String) : Except Failure Web.Request := do
  sendable { method := .get, url := ← address c.toAscii location, headers := c.headers }

/-- The document that asks for a run of the configured image on an uploaded input. -/
def sessionDocument (input : String) : Json.Document :=
  .object [("img", .string c.imageId), ("input", .string input), ("assumptions", .array []),
    ("execute_only", .bool false)]

/-- The document that asks for a short proof of a session. -/
def snarkDocument (session : String) : Json.Document := .object [("session_id", .string session)]

end Requests

/-! ## Reports -/

/-- Reads a downloaded receipt. -/
def receiptOf (bytes : Bytes) : Except Failure Receipt :=
  (Receipt.format.decodeFront bytes).mapError (.decode "receipt")

/-- What a receipt gives: its journal, and its seal behind the selector of the verifier. -/
def resultOf (receipt : Receipt) : RawProof :=
  { output := receipt.journal,
    proof := [0x50, 0xbd, 0x17, 0x69] ++ receipt.inner.groth16Receipt.proofSeal }

/-- How the receipt of an input is made. -/
def protocol (c : Client) (input : Bytes) : Conduct Web.Request Web.Answer RawProof :=
  Stage (c.getUnder "inputs/upload") (recordOf UploadSlot.ofNode) fun slot =>
  Stage (c.putTo slot.url input) bodyOf fun _ =>
  Stage (c.postUnder "sessions/create" (c.sessionDocument slot.uuid)) (recordOf createdId)
    fun session =>
  Polls c.poller (c.sessionMachine session) () fun _ =>
  Stage (c.postUnder "snark/create" (snarkDocument session)) (recordOf createdId) fun snark =>
  Polls c.poller (c.snarkMachine snark) () fun location =>
  Stage (c.getFrom location) bodyOf fun bytes =>
  Given (receiptOf bytes) fun receipt =>
  Returns (resultOf receipt)

/-- The requests of a run in which nothing fails. -/
def script (c : Client) (input : Bytes) (slot : UploadSlot) (session : String) (sessionPolls : Nat)
    (snark : String) (snarkPolls : Nat) (location : String) : List (Except Failure Web.Request) :=
  [c.getUnder "inputs/upload",
   c.putTo slot.url input,
   c.postUnder "sessions/create" (c.sessionDocument slot.uuid)] ++
  (List.replicate (sessionPolls + 1) (c.getUnder ("sessions/status/" ++ session)) ++
  (c.postUnder "snark/create" (snarkDocument session) ::
  (List.replicate (snarkPolls + 1) (c.getUnder ("snark/status/" ++ snark)) ++
  [c.getFrom location])))

section Verdicts

variable (c : Client) (id : String) (limit : Nat)

end Verdicts

end Client

end QuoteProver.Bonsai
