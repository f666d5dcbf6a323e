import QuoteProver.Bonsai.Client
import QuoteProver.Collateral.Basic
import QuoteProver.Prover.GuestInput
import QuoteProver.Succinct.Client

/-!
# Proving quotes

A `Client` knows the backends that are configured.  `proveQuote` frames a quote and its collateral
for the guest and has the backend of the wanted proof system prove the guest on them.
-/

namespace QuoteProver.Prover

/-- The part of the program that the log entries come from. -/
def source : String := "zkdcap::prover"

/-- A place where guests are proven. -/
inductive Backend where
  | bonsai (client : Bonsai.Client)
  | succinct (client : Succinct.Client)

namespace Backend

/-- The proof system of a backend. -/
def system : Backend → ProofSystem
  | bonsai _ => .risc0
  | succinct _ => .succinct

/-- Proves the guest of a backend on an input. -/
def prove (b : Backend) (input : Bytes) : Work RawProof :=
  match b with
  | bonsai client => client.prove input
  | succinct client => client.prove input

end Backend

/-- The backends that are configured. -/
structure Client where
  bonsai : Option Bonsai.Client := none
  succinct : Option Succinct.Client := none

namespace Client

/-- The backends of a complete configuration, where `read` gives the contents of files. -/
def ofConfig (read : String → Option Bytes) (config : Config.Backends)
    (toAscii : Web.DomainToAscii := some) : Except Failure Client := do
  return { bonsai := ← config.bonsai.mapM (Bonsai.Client.ofConfig · toAscii)
           succinct := ← config.succinct.mapM (Succinct.Client.ofConfig read · toAscii) }

/-- The backend of a proof system. -/
def backend (c : Client) (system : ProofSystem) : Except Failure Backend :=
  let found := match system with
    | .risc0 => c.bonsai.map .bonsai
    | .succinct => c.succinct.map .succinct
  match found with
  | some b => .ok b
  | none => .error (.backendNotConfigured system)

/-- The failure to report for collateral that does not fit its form for the guest. -/
def collateralFailure : Collateral.Failure → Failure
  | .fieldTooLarge field _ => .inputTooLarge field
  | failure => .invalidConfig failure.message

/-- Proves a quote with its collateral. -/
def proveQuote (c : Client) (system : ProofSystem) (quote : Bytes) (collateral : Collateral) :
    Work Proof := do
  let backend ← Session.orFail (c.backend system)
  let encoded ← Session.orFail (collateral.encode.mapError collateralFailure)
  let input ← Session.orFail (guestInput quote encoded (← Session.now))
  Session.note .info source "proving quote"
  let raw ← backend.prove input
  return { system := backend.system, output := raw.output, proof := raw.proof }

end Client

end QuoteProver.Prover
