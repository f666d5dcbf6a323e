import QuoteProver.Json.Record
import QuoteProver.Prover.ProofSystem

/-!
# Proofs of quotes

A `Proof` is the result of the whole work: the public output of the guest and the proof of it in
the form that verifier contracts take.  It is kept as a JSON record.
-/

namespace QuoteProver.Prover

/-- What a backend makes of a guest input. -/
structure RawProof where
  output : Bytes
  proof : Bytes
  deriving Repr, DecidableEq

/-- A proof of a quote. -/
structure Proof where
  system : ProofSystem
  /-- The public output of the guest. -/
  output : Bytes
  /-- The proof as verifier contracts take it. -/
  proof : Bytes
  deriving Repr, DecidableEq

namespace ProofSystem

/-- The proof system that a JSON value names. -/
def ofNode (node : Json.Node) : Option ProofSystem :=
  node.choice? (all.map fun system => (system.name, system))

end ProofSystem

namespace Proof

/-- The JSON record of a proof. -/
def document (p : Proof) : Json.Document :=
  .object [("zk_type", .string p.system.name), ("output", .hex p.output), ("proof", .hex p.proof)]

/-- Reads the JSON record of a proof. -/
def ofNode (node : Json.Node) : Option Proof := do
  match ← node.record? ["zk_type", "output", "proof"] [] with
  | [system, output, proof] =>
    return { system := ← Json.Node.member ProofSystem.ofNode system,
             output := ← Json.Node.member Json.Node.hexBytes? output,
             proof := ← Json.Node.member Json.Node.hexBytes? proof }
  | _ => none

end Proof

end QuoteProver.Prover
