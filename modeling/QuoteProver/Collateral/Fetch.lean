import QuoteProver.Collateral.Basic
import QuoteProver.Quote.Basic

/-!
# Fetching collateral

A `Source` answers `Call`s for signed records and certificates.  `fetch` makes the calls that a
quote needs, one after another until one fails, and notes them.
-/

namespace QuoteProver.Collateral

/-- A certificate with the revocation list of its authority. -/
structure CertificateAndCrl where
  certificate : Bytes
  crl : Bytes
  deriving Repr, DecidableEq

/-- A question to the source of collateral. -/
inductive Call where
  | tcbInfo (kind : TcbKind) (fmspc : String) (version : UInt32)
  | enclaveIdentity (kind : EnclaveKind) (version : UInt32)
  | certificate (authority : Authority)
  deriving Repr, DecidableEq

namespace Call

/-- What a call is answered with. -/
def Answer : Call → Type
  | tcbInfo .. => SignedRecord
  | enclaveIdentity .. => SignedRecord
  | certificate _ => CertificateAndCrl

/-- What a call is for, as messages name it. -/
def item : Call → String
  | tcbInfo .. => "tcb info"
  | enclaveIdentity .. => "enclave identity"
  | certificate .root => "root CA certificate"
  | certificate .processor => "PCK processor CA certificate"
  | certificate .platform => "PCK platform CA certificate"
  | certificate .signing => "TCB signing certificate"

end Call

/-- Answers calls, or gives the reasons for not doing so from the outermost to the innermost. -/
abbrev Source := (call : Call) → Except (List String) call.Answer

/-- Work that makes calls and notes them. -/
abbrev Fetching := ExceptT Failure (StateM (List Call))

/-- Goes on with a value or fails. -/
def orFail {α : Type} : Except Failure α → Fetching α
  | .ok a => pure a
  | .error failure => throw failure

/-- Makes a call, which counts as made also if it fails. -/
def ask (source : Source) (call : Call) : Fetching call.Answer := do
  modify (· ++ [call])
  orFail ((source call).mapError (.source call.item))

/-- Assembles the collateral of a quote.  When `debugging`, the log tells how long its encoding is,
and so collateral that cannot be encoded is a failure then. -/
def fetch (source : Source) (quote : Quote) (debugging : Bool := false) : Fetching Collateral := do
  let keys ← orFail (quote.collateralKeys.mapError .quote)
  let tcbInfo : SignedRecord ← ask source (.tcbInfo keys.tcbKind keys.fmspc keys.tcbVersion)
  let identity : SignedRecord ← ask source (.enclaveIdentity keys.enclaveKind keys.enclaveVersion)
  let root : CertificateAndCrl ← ask source (.certificate .root)
  let signing : CertificateAndCrl ← ask source (.certificate .signing)
  let issuer : CertificateAndCrl ← ask source (.certificate keys.authority)
  let collateral : Collateral := {
    tcbInfo := Text.Utf8.encode (tcbInfo.encode .tcbInfo),
    qeIdentity := Text.Utf8.encode (identity.encode .enclaveIdentity),
    rootCertificate := root.certificate, signingCertificate := signing.certificate,
    rootCrl := root.crl,
    processorCrl := if keys.authority = .processor then issuer.crl else [],
    platformCrl := if keys.authority = .processor then [] else issuer.crl }
  if debugging then
    let _ ← orFail collateral.encode
  return collateral

end QuoteProver.Collateral
