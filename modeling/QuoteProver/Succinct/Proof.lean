import QuoteProver.Succinct.Stdin
import QuoteProver.Text.Hex

/-!
# Proofs of the prover network

`ProofWithPublicValues` is a fulfilled proof as the network hands it out.  Of the proof variants
`plonk` and `groth16` are read, and `proofBytes` gives the form for verifier contracts of the
latter.
-/

namespace QuoteProver.Succinct

open Codec

/-- A proof over the curve BN254. -/
structure Bn254Proof where
  /-- The hash of the verifying key and the digest of the public values, as decimal numerals. -/
  publicInputs : Exactly 2 String
  /-- The hexadecimal form in which a verifier contract takes the proof. -/
  encodedProof : String
  rawProof : String
  vkeyHash : Digest
  deriving Repr, DecidableEq

/-- A proof of a variant whose contents are read. -/
inductive Proof where
  | plonk (proof : Bn254Proof)
  | groth16 (proof : Bn254Proof)
  deriving Repr, DecidableEq

/-- A fulfilled proof. -/
structure ProofWithPublicValues where
  proof : Proof
  stdin : Stdin
  publicValues : Bytes
  version : String
  deriving Repr, DecidableEq

/-! ## Formats -/

/-- The format of a proof over BN254. -/
def Bn254Proof.format : Format Bn254Proof :=
  (((Format.exactly 2 .text).field "public_inputs").and
    ((Format.text.field "encoded_proof").and
      ((Format.text.field "raw_proof").and (Format.digest.field "vkey_hash")))).map
    (fun (publicInputs, encodedProof, rawProof, vkeyHash) =>
      { publicInputs, encodedProof, rawProof, vkeyHash })
    (fun p => (p.publicInputs, p.encodedProof, p.rawProof, p.vkeyHash))

/-- The variants of a proof whose contents are read. -/
inductive Proof.Kind where
  | plonk | groth16
  deriving Repr, DecidableEq

/-- The name of a kind. -/
def Proof.Kind.name : Proof.Kind → String
  | .plonk => "plonk"
  | .groth16 => "groth16"

/-- The tags of proofs: core and compressed proofs are not read. -/
def Proof.tags : Format.Tags Proof.Kind where
  type := "SP1Proof"
  kinds := [.plonk, .groth16]
  tag | .plonk => 2 | .groth16 => 3
  unsupported := [0, 1]

/-- The format of a proof. -/
def Proof.format : Format Proof :=
  (Format.tagged (β := fun _ => Bn254Proof) .variantTag Proof.tags
    fun kind => Bn254Proof.format.field kind.name).map
    (fun | ⟨.plonk, proof⟩ => .plonk proof | ⟨.groth16, proof⟩ => .groth16 proof)
    (fun | .plonk proof => ⟨.plonk, proof⟩ | .groth16 proof => ⟨.groth16, proof⟩)

/-- The format of a fulfilled proof. -/
def ProofWithPublicValues.format : Format ProofWithPublicValues :=
  ((Proof.format.field "proof").and
    ((Stdin.format.field "stdin").and
      ((Format.bytes.field "public_values").and (Format.text.field "sp1_version")))).map
    (fun (proof, stdin, publicValues, version) => { proof, stdin, publicValues, version })
    (fun p => (p.proof, p.stdin, p.publicValues, p.version))

end QuoteProver.Succinct
