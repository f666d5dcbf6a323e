import QuoteProver.Json.Document
import QuoteProver.Web.Url

/-!
# Requests and answers

What goes to a web service and what comes back.  Redirects and time limits are the business of what
carries the requests: an answer here is the response at the end of all redirects, and none that came too
late.
-/

namespace QuoteProver.Web

/-- What a request does. -/
inductive Method where
  | get
  | post
  | put
  deriving Repr, DecidableEq

/-- The name of a method in requests. -/
def Method.name : Method → String
  | get => "GET"
  | post => "POST"
  | put => "PUT"

/-- What a request carries. -/
inductive Body where
  | empty
  | json (document : Json.Document)
  | raw (bytes : Bytes)

/-- The media type that is named with a body. -/
def Body.mediaType : Body → Option String
  | json _ => some "application/json"
  | _ => none

/-- The bytes of a body as they are sent. -/
def Body.bytes : Body → Bytes
  | empty => []
  | json document => Text.Utf8.encode document.compact
  | raw bytes => bytes

/-- A request to a web service. -/
structure Request where
  method : Method
  url : Url
  headers : List (String × String) := []
  body : Body := .empty

/-- What comes of a request: a complete response in time, or nothing usable. -/
inductive Answer where
  | response (status : Nat) (body : Bytes)
  | lost
  deriving Repr, DecidableEq

/-- Whether a text can be sent as the value of a header: it holds no control characters apart from
tabs. -/
def isHeaderText (text : String) : Bool :=
  text.toList.all fun c => c = '\t' || (0x20 ≤ c.toNat && c.toNat ≠ 0x7F)

end QuoteProver.Web
