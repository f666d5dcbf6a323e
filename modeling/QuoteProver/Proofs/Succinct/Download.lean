import QuoteProver.Proofs.Codec.Causes
import QuoteProver.Proofs.Succinct.ProofWire
import QuoteProver.Proofs.Text.Hex
import QuoteProver.Succinct.Download

/-!
# What a download gives for a verifier contract

`Yields` lists the five ways in which downloaded bytes can end, by their wire form alone: the bytes
for a contract, a fault of the hexadecimal text, a proof over BN254 of the other variant, a proof of
a variant that is not read, and bytes that are no proof.  `download_yields` says that reading the
bytes and taking the form for contracts out of them ends in exactly that way.
-/

namespace QuoteProver.Succinct

open Codec hiding Failure
open Prover (Failure)
open Bonsai (wireWord)

/-! ## The five ways -/

/-- The bytes begin with the wire form of a proof. -/
def Carries (data : Bytes) (p : ProofWithPublicValues) : Prop :=
  p.Fits ∧ ∃ rest, data = p.wire ++ rest

/-- The bytes begin with the tag of a variant that is not read, and anything may follow it. -/
inductive Unread (data : Bytes) : (mode : String) → Prop
  | core {rest : Bytes} : data = wireWord 0 ++ rest → Unread data "core"
  | compressed {rest : Bytes} : data = wireWord 1 ++ rest → Unread data "compressed"

/-- What downloaded bytes give for a verifier contract. -/
inductive Yields (data : Bytes) : Except Failure Bytes → Prop
  | contract {p : ProofWithPublicValues} {proof : Bn254Proof} {encoded : Bytes} :
      Carries data p → p.proof = .groth16 proof →
      Text.Hex.Denotes proof.encodedProof.toList encoded →
      Yields data (.ok (proof.vkeyHash.1.take 4 ++ encoded))
  | hex {p : ProofWithPublicValues} {proof : Bn254Proof} {fault : Text.Hex.Fault} :
      Carries data p → p.proof = .groth16 proof →
      Text.Hex.FaultOf (Text.Utf8.encode proof.encodedProof) fault →
      Yields data (.error (.fromHex fault))
  | plonk {p : ProofWithPublicValues} {proof : Bn254Proof} :
      Carries data p → p.proof = .plonk proof → Yields data (.error (.unsupportedProofMode "plonk"))
  | unread {mode : String} : Unread data mode → Yields data (.error (.unsupportedProofMode mode))
  | malformed {failure : Codec.Failure} :
      (∀ p, ¬ Carries data p) → (∀ mode, ¬ Unread data mode) →
      ProofWithPublicValues.format.decode data = .error failure →
      Yields data (.error (.decode "proof" failure))

/-! ## Failures -/

theorem Stdin.failsWith_noVariant : Stdin.format.FailsWith Cause.NoVariant :=
  have short := Cause.noVariant_insufficientBytes
  have proofs := Format.FailsWith.counted short (.number short ..)
  .map (.and (.field (.counted short (.bytes short)) "buffer")
    (.and (.field (.number short ..) "ptr") (.field proofs "proofs"))) _ _

theorem Bn254Proof.failsWith_noVariant : Bn254Proof.format.FailsWith Cause.NoVariant :=
  have short := Cause.noVariant_insufficientBytes
  have text := Format.FailsWith.text short Cause.noVariant_utf8
  .map (.and (.field (.exactly text 2) "public_inputs") (.and (.field text "encoded_proof")
    (.and (.field text "raw_proof") (.field (.digest short) "vkey_hash")))) _ _

/-- Whatever has nothing to do with variants aside, a proof fails by its tag. -/
theorem Proof.decode_eq_error {data : Bytes} {failure : Codec.Failure}
    (failed : Proof.format.decode data = .error failure) :
    failure.cause.NoVariant ∨
      ∃ tag rest, data = wireWord tag ++ rest ∧ Proof.tags.kind tag = .error failure := by
  have short := Cause.noVariant_insufficientBytes
  rcases Format.decode_tagged_eq_error_iff.1 (Decoder.map_eq_error_iff.1 failed) with
    noTag | ⟨tag, rest, htag, hkind | ⟨kind, -, hcontents⟩⟩
  · exact .inl (((Format.FailsWith.number short 4 id id).field "tag").cause noTag)
  · exact .inr ⟨tag, rest, (Format.decode_variantTag_eq_ok_iff.1 htag).2, hkind⟩
  · exact .inl ((Bn254Proof.failsWith_noVariant.field kind.name).cause hcontents)

namespace ProofWithPublicValues

theorem decode_eq_error {data : Bytes} {failure : Codec.Failure}
    (failed : format.decode data = .error failure) :
    failure.cause.NoVariant ∨ ∃ tag rest inner, data = wireWord tag ++ rest ∧
      Proof.tags.kind tag = .error inner ∧ failure = inner.inField "proof" := by
  have short := Cause.noVariant_insufficientBytes
  have behind : ((Stdin.format.field "stdin").and ((Format.bytes.field "public_values").and
      (Format.text.field "sp1_version"))).FailsWith Cause.NoVariant :=
    .and (.field Stdin.failsWith_noVariant "stdin") (.and (.field (.bytes short) "public_values")
      (.field (.text short Cause.noVariant_utf8) "sp1_version"))
  rcases Format.decode_and_eq_error_iff.1 (Decoder.map_eq_error_iff.1 failed) with
    hproof | ⟨_, mid, -, h⟩
  · obtain ⟨inner, hinner, rfl⟩ := mapError_eq_error_iff.1 hproof
    rcases Proof.decode_eq_error hinner with plain | ⟨tag, rest, hdata, hkind⟩
    · exact .inl plain
    · exact .inr ⟨tag, rest, inner, hdata, hkind, rfl⟩
  · exact .inl (behind.cause h)

/-- Nothing behind the tag of another variant is looked at. -/
theorem decode_of_kind_error {tag : Nat} {inner : Codec.Failure} (small : tag < 2 ^ 32)
    (h : Proof.tags.kind tag = .error inner) (rest : Bytes) :
    format.decode (wireWord tag ++ rest) = .error (inner.inField "proof") := by
  refine Decoder.map_eq_error_iff.2 (Format.decode_and_eq_error_iff.2 (.inl ?_))
  refine mapError_eq_error_iff.2 ⟨inner, Decoder.map_eq_error_iff.2 ?_, rfl⟩
  exact Format.decode_tagged_eq_error_iff.2
    (.inr ⟨tag, rest, Format.decode_variantTag_eq_ok_iff.2 ⟨small, rfl⟩, .inl h⟩)

theorem ofDownload_eq_ok_iff {data : Bytes} {p : ProofWithPublicValues} :
    ofDownload data = .ok p ↔ Carries data p := by
  simp only [ofDownload, mapError_eq_ok_iff, Format.decodeFront_eq_ok_iff, decode_eq_ok_iff,
    Carries, exists_and_left]

theorem ofDownload_eq_error_iff {data : Bytes} {failure : Failure} :
    ofDownload data = .error failure ↔ ∃ inner, format.decode data = .error inner ∧
      downloadFailure inner = failure := by
  simp only [ofDownload, mapError_eq_error_iff, Format.decodeFront_eq_error_iff]

theorem ofDownload_of_unread {data : Bytes} {mode : String} (h : Unread data mode) :
    ofDownload data = .error (.unsupportedProofMode mode) := by
  rw [ofDownload_eq_error_iff]
  rcases h with ⟨rfl⟩ | ⟨rfl⟩
  · exact ⟨_, decode_of_kind_error (by decide) rfl _, rfl⟩
  · exact ⟨_, decode_of_kind_error (by decide) rfl _, rfl⟩

/-- A failure is reported as one of decoding unless it is for a variant that is not read. -/
theorem downloadFailure_of_not_unread {data : Bytes} {failure : Codec.Failure}
    (failed : format.decode data = .error failure) (read : ∀ mode, ¬ Unread data mode) :
    downloadFailure failure = .decode "proof" failure := by
  obtain ⟨path, cause⟩ := failure
  rcases decode_eq_error failed with plain | ⟨tag, rest, inner, rfl, hkind, hfailure⟩
  · cases cause with
    | insufficientBytes | utf8 => rfl
    | unknownVariant | unsupportedVariant => exact plain.elim
  · obtain ⟨-, rfl⟩ := Format.Tags.kind_eq_error_iff.1 hkind
    have other : ¬ tag ∈ Proof.tags.unsupported := by
      intro mem
      simp only [Proof.tags, List.mem_cons, List.not_mem_nil, or_false] at mem
      rcases mem with rfl | rfl
      · exact read "core" (.core rfl)
      · exact read "compressed" (.compressed rfl)
    rw [if_neg other] at hfailure
    cases hfailure
    rfl

/-- A download is refused for its tag, or else because it is no proof. -/
theorem ofDownload_refuses_iff {data : Bytes} {failure : Failure} :
    ofDownload data = .error failure ↔
      (∃ mode, Unread data mode ∧ .unsupportedProofMode mode = failure) ∨
        ((∀ p, ¬ Carries data p) ∧ (∀ mode, ¬ Unread data mode) ∧
          ∃ inner, format.decode data = .error inner ∧ .decode "proof" inner = failure) := by
  constructor
  · intro h
    by_cases unread : ∃ mode, Unread data mode
    · obtain ⟨mode, unread⟩ := unread
      cases h.symm.trans (ofDownload_of_unread unread)
      exact .inl ⟨mode, unread, rfl⟩
    · have read := not_exists.1 unread
      obtain ⟨inner, failed, rfl⟩ := ofDownload_eq_error_iff.1 h
      refine .inr ⟨fun p carries => ?_, read, inner, failed, ?_⟩
      · cases (ofDownload_eq_ok_iff.2 carries).symm.trans h
      · exact (downloadFailure_of_not_unread failed read).symm
  · rintro (⟨mode, unread, rfl⟩ | ⟨-, read, inner, failed, rfl⟩)
    · exact ofDownload_of_unread unread
    · exact ofDownload_eq_error_iff.2 ⟨inner, failed, downloadFailure_of_not_unread failed read⟩

/-! ## The form for contracts -/

theorem contractBytes_eq_ok_iff {p : ProofWithPublicValues} {bytes : Bytes} :
    p.contractBytes = .ok bytes ↔ ∃ proof encoded, p.proof = .groth16 proof ∧
      Text.Hex.Denotes proof.encodedProof.toList encoded ∧
      proof.vkeyHash.1.take 4 ++ encoded = bytes := by
  rw [contractBytes]
  cases p.proof with
  | plonk proof => simp
  | groth16 proof =>
    simp only [bind_eq_ok_iff, mapError_eq_ok_iff, Text.Hex.decode_eq_ok_iff, Proof.groth16.injEq,
      pure, Except.pure, Except.ok.injEq, exists_and_left, exists_eq_left']

theorem contractBytes_eq_error_iff {p : ProofWithPublicValues} {failure : Failure} :
    p.contractBytes = .error failure ↔
      (∃ proof fault, p.proof = .groth16 proof ∧
        Text.Hex.FaultOf (Text.Utf8.encode proof.encodedProof) fault ∧ .fromHex fault = failure) ∨
      ∃ proof, p.proof = .plonk proof ∧ .unsupportedProofMode "plonk" = failure := by
  rw [contractBytes]
  cases p.proof with
  | plonk proof => simp
  | groth16 proof =>
    simp only [bind_eq_error_iff, mapError_eq_error_iff, Text.Hex.decode_eq_error_iff,
      Proof.groth16.injEq, pure, Except.pure, reduceCtorEq, and_false, exists_false, or_false,
      false_and, exists_and_left, exists_eq_left']

end ProofWithPublicValues

/-! ## What a download gives -/

open ProofWithPublicValues

theorem yields_ok_iff {data bytes : Bytes} :
    Yields data (.ok bytes) ↔ ∃ p, Carries data p ∧ p.contractBytes = .ok bytes := by
  simp only [contractBytes_eq_ok_iff]
  constructor
  · rintro ⟨carries, hproof, hex⟩
    exact ⟨_, carries, _, _, hproof, hex, rfl⟩
  · rintro ⟨p, carries, proof, encoded, hproof, hex, rfl⟩
    exact .contract carries hproof hex

theorem yields_error_iff {data : Bytes} {failure : Failure} :
    Yields data (.error failure) ↔ ofDownload data = .error failure ∨
      ∃ p, Carries data p ∧ p.contractBytes = .error failure := by
  simp only [ofDownload_refuses_iff, contractBytes_eq_error_iff]
  constructor
  · intro h
    cases h with
    | hex carries hproof fault => exact .inr ⟨_, carries, .inl ⟨_, _, hproof, fault, rfl⟩⟩
    | plonk carries hproof => exact .inr ⟨_, carries, .inr ⟨_, hproof, rfl⟩⟩
    | unread h => exact .inl (.inl ⟨_, h, rfl⟩)
    | malformed other read failed => exact .inl (.inr ⟨other, read, _, failed, rfl⟩)
  · rintro ((⟨mode, unread, rfl⟩ | ⟨other, read, inner, failed, rfl⟩) |
      ⟨p, carries, ⟨proof, fault, hproof, hex, rfl⟩ | ⟨proof, hproof, rfl⟩⟩)
    · exact .unread unread
    · exact .malformed other read failed
    · exact .hex carries hproof hex
    · exact .plonk carries hproof

namespace Yields

variable {data : Bytes}

/-- The bytes of the key are always there. -/
theorem four_le_length {bytes : Bytes} (h : Yields data (.ok bytes)) : 4 ≤ bytes.length := by
  cases h with
  | @contract p proof encoded =>
    have long : 4 ≤ proof.vkeyHash.1.length := by
      rw [proof.vkeyHash.2]
      decide
    have key : (proof.vkeyHash.1.take 4).length = 4 := List.length_take_of_le long
    rw [List.length_append, key]
    omega

theorem mode_eq {mode : String} (h : Yields data (.error (.unsupportedProofMode mode))) :
    mode = "core" ∨ mode = "compressed" ∨ mode = "plonk" := by
  cases h with
  | plonk => exact .inr (.inr rfl)
  | unread h =>
    cases h with
    | core => exact .inl rfl
    | compressed => exact .inr (.inl rfl)

theorem stage_eq_codec_iff {failure : Failure} (h : Yields data (.error failure)) :
    failure.stage = "codec" ↔ ∃ inner, failure = .decode "proof" inner := by
  cases h with
  | malformed => exact ⟨fun _ => ⟨_, rfl⟩, fun _ => rfl⟩
  | hex | plonk | unread => simp [Failure.stage]

end Yields

/-- Reading a download and taking the form for contracts out of it ends in the way that its bytes
determine.  A proof is accepted from its wire form, of either variant and with anything behind it.
So there are never fewer than the four bytes of the key, a mode is refused only if it is one of the
three others, and a failure belongs to decoding if it is one of reading the proof. -/
theorem download_yields (data : Bytes) :
    (∀ result, ofDownload data >>= contractBytes = result ↔ Yields data result) ∧
    (∀ p, ofDownload data = .ok p ↔ p.Fits ∧ ∃ rest, data = p.wire ++ rest) ∧
    (∀ bytes, ofDownload data >>= contractBytes = .ok bytes → 4 ≤ bytes.length) ∧
    (∀ mode, ofDownload data >>= contractBytes = .error (.unsupportedProofMode mode) →
      mode = "core" ∨ mode = "compressed" ∨ mode = "plonk") ∧
    ∀ failure, ofDownload data >>= contractBytes = .error failure →
      (failure.stage = "codec" ↔ ∃ inner, failure = .decode "proof" inner) := by
  have yields (result : Except Failure Bytes) :
      ofDownload data >>= contractBytes = result ↔ Yields data result := by
    cases result with
    | ok bytes =>
      simp only [bind_eq_ok_iff, yields_ok_iff, ofDownload_eq_ok_iff]
    | error failure =>
      simp only [bind_eq_error_iff, yields_error_iff, ofDownload_eq_ok_iff]
  refine ⟨yields, fun p => ofDownload_eq_ok_iff, fun bytes h => ?_, fun mode h => ?_,
    fun failure h => ?_⟩
  · exact ((yields _).1 h).four_le_length
  · exact ((yields _).1 h).mode_eq
  · exact ((yields _).1 h).stage_eq_codec_iff

/-- Nothing but the tag of a compressed proof is looked at. -/
example : ofDownload [1, 0, 0, 0, 9] = .error (.unsupportedProofMode "compressed") := rfl

end QuoteProver.Succinct
