import QuoteProver.Prover.Failure
import QuoteProver.Succinct.Proof

/-!
# Downloaded proofs

`ProofWithPublicValues.ofDownload` reads the bytes that the prover network stores for a fulfilled
request, and `contractBytes` gives the proof in the form that verifier contracts take.
-/

namespace QuoteProver.Succinct

open Prover (Failure)

/-- The mode of the proof variants whose contents are not read. -/
def Proof.modeName (tag : Nat) : String :=
  match tag with
  | 0 => "core"
  | 1 => "compressed"
  | 2 => "plonk"
  | 3 => "groth16"
  | _ => "unknown"

/-- The failure to report for a download that does not decode: a proof of an unread variant is a
valid artifact of another mode. -/
def downloadFailure (failure : Codec.Failure) : Failure :=
  match failure.cause with
  | .unsupportedVariant type tag =>
    if type = Proof.tags.type then .unsupportedProofMode (Proof.modeName tag)
    else .decode "proof" failure
  | _ => .decode "proof" failure

namespace ProofWithPublicValues

/-- Reads a download, whatever follows the proof in it. -/
def ofDownload (data : Bytes) : Except Failure ProofWithPublicValues :=
  (format.decodeFront data).mapError downloadFailure

/-- The proof as verifier contracts take it: the first four bytes of the hash of the verifying
key, then the encoded proof. -/
def contractBytes (p : ProofWithPublicValues) : Except Failure Bytes :=
  match p.proof with
  | .groth16 proof => do
    let encoded ← (Text.Hex.decode proof.encodedProof).mapError .fromHex
    return proof.vkeyHash.1.take 4 ++ encoded
  | .plonk _ => .error (.unsupportedProofMode "plonk")

end ProofWithPublicValues

end QuoteProver.Succinct
