import QuoteProver.Json.Record
import QuoteProver.Prover.Session
import QuoteProver.Web.Http

/-!
# Sessions with web services

Sending requests over the web and reading what comes back: only a success counts as an answer, and
JSON answers are read as the record that is expected.
-/

namespace QuoteProver.Prover

/-- A session with a web service. -/
abbrev Work := Session Web.Request Web.Answer

/-! ## Answers -/

/-- The body of a success; any other answer is a failure. -/
def bodyOf : Web.Answer → Except Failure Bytes
  | .response status body =>
    if 200 ≤ status && status < 300 then .ok body
    else .error (.http status (Text.Utf8.decodeLossy body))
  | .lost => .error .transport

/-- Reads the JSON body of a success. -/
def recordOf {α : Type} (read : Json.Node → Option α) (answer : Web.Answer) :
    Except Failure α := do
  match (Json.Node.parse (← bodyOf answer)).bind read with
  | some a => .ok a
  | none => .error .json

/-! ## Requests -/

/-- What is logged when a request is sent. -/
def sending (request : Web.Request) : Log.Entry :=
  { level := .trace, source := "zkdcap::prover::http", message := request.method.name }

/-- A request that can be sent. -/
def sendable (request : Web.Request) : Except Failure Web.Request :=
  if request.url.isHttp then .ok request else .error .transport

/-- Sends a request and gives its answer. -/
def send (request : Web.Request) : Work Web.Answer := do
  Session.record [sending request]
  let request ← Session.orFail (sendable request)
  Session.exchange false request

/-- Sends a request and gives the body of its answer. -/
def fetchBody (request : Web.Request) : Work Bytes := do
  Session.orFail (bodyOf (← send request))

/-- Sends a request and reads the record of its answer. -/
def fetchRecord {α : Type} (read : Json.Node → Option α) (request : Web.Request) : Work α := do
  Session.orFail (recordOf read (← send request))

/-- Reads an address. -/
def address (toAscii : Web.DomainToAscii) (text : String) : Except Failure Web.Url :=
  (Web.Url.parse toAscii text).mapError .url

/-- Resolves a path against an address. -/
def addressUnder (toAscii : Web.DomainToAscii) (base : Web.Url) (path : String) :
    Except Failure Web.Url :=
  (base.join toAscii path).mapError .url

end QuoteProver.Prover
