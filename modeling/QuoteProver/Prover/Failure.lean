import QuoteProver.Codec.Failure
import QuoteProver.Prover.ProofSystem
import QuoteProver.Text.Hex
import QuoteProver.Web.Host

/-!
# Failures of proving

A `Failure` says why a proof could not be made: the service refused or did not answer, an answer
does not make sense, a job failed, the configuration or the key is unusable, or the caller gave
up.
-/

namespace QuoteProver.Prover

/-- Why a key cannot be used for signatures. -/
inductive KeyFault where
  | secretKey
  | publicKey
  deriving Repr, DecidableEq

/-- The wording of a fault of a key. -/
def KeyFault.message : KeyFault → String
  | secretKey => "malformed or out-of-range secret key"
  | publicKey => "malformed public key"

/-- Why a proof could not be made. -/
inductive Failure where
  /-- The service answered with a status that is no success. -/
  | http (status : Nat) (body : String)
  /-- A request got no complete answer. -/
  | transport
  /-- An answer is not the JSON text that was asked for. -/
  | json
  | url (fault : Web.UrlFault)
  /-- A downloaded artifact does not decode. -/
  | decode (artifact : String) (failure : Codec.Failure)
  /-- A finished job that does not say where its result is. -/
  | missingResult (job : String)
  | unclaimed (reason description : String)
  | jobFailed (job status message : String)
  /-- A proof of a kind that has no form for verifier contracts. -/
  | unsupportedProofMode (mode : String)
  | signing (fault : KeyFault)
  | invalidConfig (reason : String)
  | backendNotConfigured (system : ProofSystem)
  /-- A part of the guest input whose length does not fit its field. -/
  | inputTooLarge (part : String)
  | cancelled
  | fromHex (fault : Text.Hex.Fault)
  /-- A local file that cannot be read. -/
  | unreadable (path : String)
  deriving Repr, DecidableEq

namespace Failure

/-- The wording of a failure. -/
def message : Failure → String
  | http status body => s!"HTTP request failed with status {status}: {body}"
  | transport => "HTTP transport error"
  | json => "invalid JSON response"
  | url fault => "invalid URL: " ++ fault.message
  | decode artifact failure => s!"decoding {artifact}: " ++ failure.message
  | missingResult job => s!"{job} reported as finished without a result URL"
  | unclaimed reason description => s!"proof unclaimed: [{reason}] {description}"
  | jobFailed job status message => s!"{job} {status}: {message}"
  | unsupportedProofMode mode => s!"unsupported proof mode: {mode}"
  | signing fault => "signing request: " ++ fault.message
  | invalidConfig reason => s!"invalid configuration: {reason}"
  | backendNotConfigured system => s!"{system.name} backend not configured"
  | inputTooLarge part => s!"{part} too large for the prover input"
  | cancelled => "operation cancelled"
  | fromHex fault => fault.message
  | unreadable path => s!"reading {path}"

/-- The stage of the work that a failure belongs to. -/
def stage : Failure → String
  | decode _ _ => "codec"
  | _ => "prover"

end Failure

end QuoteProver.Prover
