import QuoteProver.Proofs.Bonsai.ReceiptWire
import QuoteProver.Proofs.Codec.Spelling
import QuoteProver.Succinct.Proof

/-!
# The wire grammar of proofs

`ProofWithPublicValues.wire` spells out the bytes of a fulfilled proof in the way of `Receipt.wire`,
with a text written as its UTF-8 bytes.  `ProofWithPublicValues.decode_eq_ok_iff` says that the reader
of proofs accepts exactly these bytes, with anything behind them.
-/

namespace QuoteProver.Succinct

open Codec
open Bonsai (wireWord wireBytes wireList)

/-! ## The grammar -/

def wireText (s : String) : Bytes := wireBytes (Text.Utf8.encode s)

def Stdin.wire (s : Stdin) : Bytes :=
  wireList wireBytes s.buffer ++ Bytes.littleEndian 8 s.ptr.toNat ++
    wireList (fun n => wireWord n.toNat) s.proofs

def Bn254Proof.wire (p : Bn254Proof) : Bytes :=
  p.publicInputs.1.flatMap wireText ++ wireText p.encodedProof ++ wireText p.rawProof ++ p.vkeyHash.1

def Proof.wire : Proof → Bytes
  | .plonk p => wireWord 2 ++ p.wire
  | .groth16 p => wireWord 3 ++ p.wire

def ProofWithPublicValues.wire (p : ProofWithPublicValues) : Bytes :=
  p.proof.wire ++ p.stdin.wire ++ wireBytes p.publicValues ++ wireText p.version

/-! ## Values that fit -/

/-- The length of a text in UTF-8 can be written. -/
def TextFits (s : String) : Prop := (Text.Utf8.encode s).length < 2 ^ 64

/-- All lengths in a proof over BN254 can be written. -/
def Bn254Proof.Fits (p : Bn254Proof) : Prop :=
  (∀ s ∈ p.publicInputs.1, TextFits s) ∧ TextFits p.encodedProof ∧ TextFits p.rawProof

/-- The contents of a proof, whatever its variant. -/
def Proof.content : Proof → Bn254Proof
  | .plonk p => p
  | .groth16 p => p

/-- All lengths in a fulfilled proof can be written. -/
def ProofWithPublicValues.Fits (p : ProofWithPublicValues) : Prop :=
  p.proof.content.Fits ∧ p.stdin.Fits ∧ p.publicValues.length < 2 ^ 64 ∧ TextFits p.version

/-! ## The formats write the grammar -/

theorem Stdin.encode_format (s : Stdin) : Stdin.format.encode s = s.wire := by
  have bytes : Format.bytes.encode = wireBytes := funext Format.encode_bytes
  have word : Format.uint32.encode = fun n => wireWord n.toNat :=
    funext fun n => Format.encode_number ..
  simp [Stdin.format, wire, wireList, bytes, word, Format.uint64]

theorem encode_text : Format.text.encode = wireText := funext fun s => by
  rw [Format.encode_text, Format.encode_bytes, wireText, wireBytes]

namespace Bn254Proof

theorem encode_format (p : Bn254Proof) : Bn254Proof.format.encode p = p.wire := by
  simp [Bn254Proof.format, wire, encode_text, wireText, wireBytes]

theorem readsBack {p : Bn254Proof} (h : p.Fits) : Bn254Proof.format.ReadsBack p :=
  .map (.and (.field "public_inputs" (.exactly p.publicInputs fun s hs => .text (h.1 s hs)))
    (.and (.field "encoded_proof" (.text h.2.1)) (.and (.field "raw_proof" (.text h.2.2))
      (.field "vkey_hash" (.digest p.vkeyHash))))) rfl

theorem canonical : Bn254Proof.format.Canonical Fits :=
  .map (.and (.field "public_inputs" (.exactly .text 2)) (.and (.field "encoded_proof" .text)
    (.and (.field "raw_proof" .text) (.field "vkey_hash" .digest))))
    (fun _ h => ⟨h.1, h.2.1, h.2.2.1⟩) fun _ _ => rfl

end Bn254Proof

namespace Proof

theorem encode_format (p : Proof) : Proof.format.encode p = p.wire := by
  cases p <;>
    simp [Proof.format, wire, wireWord, Format.variantTag, Proof.tags, Bn254Proof.encode_format]

theorem readsBack {p : Proof} (h : p.content.Fits) : Proof.format.ReadsBack p := by
  cases p with
  | plonk p =>
    exact .map (.tagged (k := Kind.plonk) (.variantTag (by decide)) rfl
      (.field "plonk" (Bn254Proof.readsBack h))) rfl
  | groth16 p =>
    exact .map (.tagged (k := Kind.groth16) (.variantTag (by decide)) rfl
      (.field "groth16" (Bn254Proof.readsBack h))) rfl

theorem canonical : Proof.format.Canonical fun p => p.content.Fits := by
  refine .map (.tagged .variantTag fun kind => .field kind.name Bn254Proof.canonical) ?_ ?_
  · rintro ⟨_ | _, p⟩ h <;> exact h
  · rintro ⟨_ | _, p⟩ _ <;> rfl

end Proof

namespace ProofWithPublicValues

theorem encode_format (p : ProofWithPublicValues) : format.encode p = p.wire := by
  simp [format, wire, Proof.encode_format, Stdin.encode_format, wireText, wireBytes]

theorem readsBack {p : ProofWithPublicValues} (h : p.Fits) : format.ReadsBack p :=
  .map (.and (.field "proof" (Proof.readsBack h.1)) (.and (.field "stdin" (readsBack_stdin h.2.1))
    (.and (.field "public_values" (.bytes h.2.2.1)) (.field "sp1_version" (.text h.2.2.2))))) rfl

theorem canonical : format.Canonical Fits :=
  .map (.and (.field "proof" Proof.canonical) (.and (.field "stdin" canonical_stdin)
    (.and (.field "public_values" .bytes) (.field "sp1_version" .text))))
    (fun _ h => h) fun _ _ => rfl

/-- A fulfilled proof is read from its wire form, with anything behind it, and from nothing else. -/
theorem decode_eq_ok_iff {data rest : Bytes} {p : ProofWithPublicValues} :
    format.decode data = .ok (p, rest) ↔ p.Fits ∧ data = p.wire ++ rest := by
  rw [Format.decode_eq_ok_iff canonical fun _ => readsBack, encode_format]

end ProofWithPublicValues

end QuoteProver.Succinct
