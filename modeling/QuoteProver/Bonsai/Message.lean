import QuoteProver.Json.Record

/-!
# Messages of the proving service

The JSON bodies of requests to the service and the answers that it gives, with the reading of the
status of a job.
-/

namespace QuoteProver.Bonsai

open Json

/-! ## Requests -/

/-- Asks for a run of the guest `image` on an uploaded input. -/
structure SessionRequest where
  image : String
  input : String
  /-- The receipts that the run may depend on. -/
  assumptions : List String := []
  executeOnly : Bool := false
  deriving Repr, DecidableEq

/-- The body of a request for a run. -/
def SessionRequest.document (r : SessionRequest) : Document :=
  .object [("img", .string r.image), ("input", .string r.input),
    ("assumptions", .array (r.assumptions.map .string)), ("execute_only", .bool r.executeOnly)]

/-- The body of a request to wrap the receipt of a session into a short proof. -/
def snarkRequest (sessionId : String) : Document := .object [("session_id", .string sessionId)]

/-! ## Answers -/

/-- A place to upload an input to. -/
structure UploadSlot where
  uuid : String
  url : String
  deriving Repr, DecidableEq

/-- Reads a place for an upload. -/
def UploadSlot.ofNode (node : Node) : Option UploadSlot := do
  match ← node.record? ["uuid", "url"] [] with
  | [uuid, url] => return { uuid := ← Node.member Node.text? uuid, url := ← Node.member Node.text? url }
  | _ => none

/-- Reads the identifier of a created job. -/
def createdId (node : Node) : Option String := do
  match ← node.record? ["uuid"] [] with
  | [uuid] => Node.member Node.text? uuid
  | _ => none

/-- The status of a session. -/
structure SessionReport where
  status : String
  receiptUrl : Option String
  errorMessage : Option String
  state : Option String
  /-- The seconds that the session has been running. -/
  elapsedTime : Option Float

/-- Reads the status of a session. -/
def SessionReport.ofNode (node : Node) : Option SessionReport := do
  match ← node.record? ["status", "receipt_url", "error_msg", "state", "elapsed_time"]
      ["receipt_url", "error_msg", "state", "elapsed_time"] with
  | [status, receiptUrl, errorMessage, state, elapsedTime] =>
    return { status := ← Node.member Node.text? status,
             receiptUrl := ← Node.optionalMember Node.text? receiptUrl,
             errorMessage := ← Node.optionalMember Node.text? errorMessage,
             state := ← Node.optionalMember Node.text? state,
             elapsedTime := ← Node.optionalMember Node.float? elapsedTime }
  | _ => none

/-- The status of a job that makes a short proof. -/
structure SnarkReport where
  status : String
  /-- The address of the finished receipt. -/
  output : Option String
  errorMessage : Option String
  deriving Repr, DecidableEq

/-- Reads the status of a job that makes a short proof. -/
def SnarkReport.ofNode (node : Node) : Option SnarkReport := do
  match ← node.record? ["status", "output", "error_msg"] ["output", "error_msg"] with
  | [status, output, errorMessage] =>
    return { status := ← Node.member Node.text? status,
             output := ← Node.optionalMember Node.text? output,
             errorMessage := ← Node.optionalMember Node.text? errorMessage }
  | _ => none

/-! ## Status -/

/-- What a status means. -/
inductive JobStatus where
  | running
  | succeeded
  | failed (status : String)
  deriving Repr, DecidableEq

/-- The meaning of a status; a job of an unknown status is running. -/
def JobStatus.ofText (status : String) : JobStatus :=
  if status = "SUCCEEDED" then .succeeded
  else if status ∈ ["FAILED", "TIMED_OUT", "ABORTED"] then .failed status
  else .running

end QuoteProver.Bonsai
