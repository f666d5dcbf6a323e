import QuoteProver.Bonsai.Receipt
import QuoteProver.Proofs.Codec.Reading
import QuoteProver.Succinct.Proof

/-!
# Verdicts that more bytes do not change

`x.Final` says that what the decoder `x` makes of some bytes is final unless it asks for more of
them: with more bytes behind, a value is read as before and those bytes are left, and a failure stays
as it is, with its path.  There is one rule for each way to build a decoder, and so for each way to
build a format.  `Format.OnWire` lists the formats of the values that services send, and
`OnWire.verdict_final` is the law for all of them.
-/

namespace QuoteProver

variable {α β : Type}

namespace Codec

/-- The bytes end too early; no other cause has to do with what is missing. -/
def Cause.WantsBytes : Cause → Prop
  | .insufficientBytes _ _ => True
  | .unknownVariant _ _ | .unsupportedVariant _ _ | .utf8 _ => False

theorem Cause.wantsBytes_iff {cause : Cause} :
    cause.WantsBytes ↔ ∃ needed available, cause = .insufficientBytes needed available := by
  cases cause <;> simp [WantsBytes]

/-! ## Decoders -/

namespace Decoder

/-- More bytes change neither a value nor a failure that does not want them. -/
structure Final (x : Decoder α) : Prop where
  value : ∀ {data a rest} (more : Bytes), x data = .ok (a, rest) →
    x (data ++ more) = .ok (a, rest ++ more)
  failure : ∀ {data failure} (more : Bytes), x data = .error failure → ¬ failure.cause.WantsBytes →
    x (data ++ more) = .error failure

namespace Final

theorem pure (a : α) : Final (Pure.pure a) where
  value more h := by
    cases h
    rfl
  failure more h := nomatch h

theorem throw (failure : Failure) : Final (MonadExcept.throw failure : Decoder α) where
  value more h := nomatch h
  failure more h _ := by
    cases h
    rfl

/-- The second part sees the bytes that the first one leaves, with the same ones behind. -/
theorem bind {x : Decoder α} {g : α → Decoder β} (hx : Final x) (hg : ∀ a, Final (g a)) :
    Final (x >>= g) where
  value {data b rest} more h := by
    cases hd : x data with
    | error failure =>
      rw [bind_of_error hd] at h
      cases h
    | ok read =>
      rw [bind_of_ok hd] at h
      rw [bind_of_ok (hx.value more hd)]
      exact (hg read.1).value more h
  failure {data failure} more h final := by
    cases hd : x data with
    | error failure' =>
      rw [bind_of_error hd] at h
      cases h
      exact bind_of_error (hx.failure more hd final)
    | ok read =>
      rw [bind_of_ok hd] at h
      rw [bind_of_ok (hx.value more hd)]
      exact (hg read.1).failure more h final

theorem map {x : Decoder α} (f : α → β) (h : Final x) : Final (f <$> x) :=
  bind (g := fun a => Pure.pure (f a)) h fun a => pure (f a)

theorem take (n : Nat) : Final (Codec.take n) where
  value {data bytes rest} more h := by
    unfold Codec.take at h
    split at h
    · rename_i enough
      cases h
      have enough' : n ≤ (data ++ more).length := by
        rw [List.length_append]
        omega
      rw [Codec.take, if_pos enough', List.take_append_of_le_length enough,
        List.drop_append_of_le_length enough]
    · cases h
  failure {data failure} more h final := by
    unfold Codec.take at h
    split at h
    · cases h
    · cases h
      exact absurd trivial final

theorem inField {x : Decoder α} (name : String) (h : Final x) :
    Final (fun data => (x data).mapError (Codec.Failure.inField name)) where
  value {data a rest} more ok := by
    cases hd : x data with
    | error failure =>
      rw [hd] at ok
      cases ok
    | ok read =>
      rw [hd] at ok
      cases ok
      rw [h.value more hd]
      rfl
  failure {data failure} more failed final := by
    cases hd : x data with
    | ok read =>
      rw [hd] at failed
      cases failed
    | error inner =>
      rw [hd] at failed
      cases failed
      -- The name of the field changes the path alone.
      have inner_final : ¬ inner.cause.WantsBytes := final
      rw [h.failure more hd inner_final]
      rfl

theorem decodeMany {f : Format α} (h : Final f.decode) (n : Nat) : Final (f.decodeMany n) := by
  induction n with
  | zero => exact pure _
  | succ n ih => exact bind h fun a => bind ih fun as => pure _

end Final

end Decoder

/-! ## Formats -/

namespace Format

/-- What the format makes of some bytes stays with more of them. -/
abbrev Final (f : Format α) : Prop := f.decode.Final

namespace Final

theorem number (width : Nat) (toNat : α → Nat) (ofNat : Nat → α) :
    (Format.number width toNat ofNat).Final :=
  .map (fun bytes => ofNat (Bytes.natOfLittleEndian bytes)) (.take width)

theorem empty (cause : Cause) : (Format.empty cause).Final := .throw ⟨[], cause⟩

theorem field {f : Format α} (h : f.Final) (name : String) : (f.field name).Final :=
  Decoder.Final.inField name h

theorem map {f : Format α} (h : f.Final) (ofValue : α → β) (toValue : β → α) :
    (f.map ofValue toValue).Final :=
  Decoder.Final.map ofValue h

theorem and {f : Format α} {g : Format β} (hf : f.Final) (hg : g.Final) : (f.and g).Final :=
  Decoder.Final.bind hf fun a => Decoder.Final.map (a, ·) hg

theorem exactly {f : Format α} (h : f.Final) (n : Nat) : (Format.exactly n f).Final :=
  Decoder.Final.decodeMany h n

theorem length : Format.length.Final := (number 8 UInt64.toNat UInt64.ofNat).field "len"

theorem counted {f : Format α} (h : f.Final) : (Format.counted f).Final :=
  Decoder.Final.bind length fun n => Decoder.Final.map Subtype.val (.decodeMany h n.toNat)

theorem bytes : Format.bytes.Final := Decoder.Final.bind length fun n => .take n.toNat

theorem text : Format.text.Final := by
  refine Decoder.Final.bind bytes fun bs => ?_
  -- Whether the bytes are a text depends on them alone, and they are all there by now.
  cases Text.Utf8.decode bs with
  | ok chars => exact .pure _
  | error fault => exact .throw _

theorem digest : Format.digest.Final := exactly (number 1 UInt8.toNat UInt8.ofNat) 32

theorem tagged {κ : Type} {γ : κ → Type} {number : Format Nat} {tags : Tags κ}
    {contents : (k : κ) → Format (γ k)} (hnumber : number.Final)
    (hcontents : ∀ k, (contents k).Final) : (Format.tagged number tags contents).Final := by
  refine Decoder.Final.bind (hnumber.field "tag") fun tag => ?_
  have kind : Decoder.Final (liftM (tags.kind tag) : Decoder κ) := by
    cases tags.kind tag with
    | ok k => exact .pure k
    | error failure => exact .throw failure
  exact Decoder.Final.bind kind fun k => Decoder.Final.map (Sigma.mk k) (hcontents k)

theorem option {f : Format α} (h : f.Final) : (Format.option f).Final := by
  refine map (tagged (number 1 id id) ?_) _ _
  rintro (_ | _)
  · exact Decoder.Final.pure ()
  · exact h

end Final

end Format

end Codec

open Codec

/-! ## The records of receipts -/

namespace Bonsai

theorem MaybePruned.final {f : Format α} (h : f.Final) : (MaybePruned.format f).Final := by
  refine .map (.tagged (.number 4 id id) ?_) _ _
  rintro (_ | _)
  · exact h
  · exact .digest

theorem SystemState.final : SystemState.format.Final :=
  .map (.and (.field (.number ..) "pc") (.field .digest "merkle_root")) _ _

theorem ExitCode.final : ExitCode.format.Final := by
  refine .map (.tagged (.number 4 id id) ?_) _ _
  rintro (_ | _ | _ | _)
  · exact Format.Final.number ..
  · exact Format.Final.number ..
  · exact Decoder.Final.pure ()
  · exact Decoder.Final.pure ()

theorem Assumption.final : Assumption.format.Final :=
  .map (.and (.field .digest "claim") (.field .digest "control_root")) _ _

theorem Output.final : Output.format.Final :=
  .map (.and (.field (MaybePruned.final .bytes) "journal")
    (.field (MaybePruned.final (.counted (MaybePruned.final Assumption.final))) "assumptions")) _ _

theorem ReceiptClaim.final : ReceiptClaim.format.Final :=
  .map (.and (.field (MaybePruned.final SystemState.final) "pre")
    (.and (.field (MaybePruned.final SystemState.final) "post")
      (.and (.field ExitCode.final "exit_code")
        (.and (.field (MaybePruned.final (.option (.empty _))) "input")
          (.field (MaybePruned.final (.option Output.final)) "output"))))) _ _

theorem Groth16Receipt.final : Groth16Receipt.format.Final :=
  .map (.and (.field .bytes "seal") (.and (.field (MaybePruned.final ReceiptClaim.final) "claim")
    (.field .digest "verifier_parameters"))) _ _

theorem InnerReceipt.final : InnerReceipt.format.Final :=
  .map (.tagged (.number 4 id id) fun _ => .field Groth16Receipt.final "groth16") _ _

theorem Receipt.final : Receipt.format.Final :=
  .map (.and (.field InnerReceipt.final "inner")
    (.and (.field .bytes "journal") (.field .digest "metadata"))) _ _

end Bonsai

/-! ## The records of downloaded proofs -/

namespace Succinct

theorem Stdin.final : Stdin.format.Final :=
  .map (.and (.field (.counted .bytes) "buffer")
    (.and (.field (.number ..) "ptr") (.field (.counted (.number ..)) "proofs"))) _ _

theorem Bn254Proof.final : Bn254Proof.format.Final :=
  .map (.and (.field (.exactly .text 2) "public_inputs") (.and (.field .text "encoded_proof")
    (.and (.field .text "raw_proof") (.field .digest "vkey_hash")))) _ _

theorem Proof.final : Proof.format.Final :=
  have contents (kind : Proof.Kind) : (Bn254Proof.format.field kind.name).Final :=
    Bn254Proof.final.field kind.name
  .map (.tagged (.number 4 id id) contents) _ _

theorem ProofWithPublicValues.final : ProofWithPublicValues.format.Final :=
  .map (.and (.field Proof.final "proof") (.and (.field Stdin.final "stdin")
    (.and (.field .bytes "public_values") (.field .text "sp1_version")))) _ _

end Succinct

/-! ## Formats on the wire -/

namespace Codec

open Bonsai Succinct in
/-- The formats of the values that are sent: numbers, byte strings and texts, lists, arrays, optional
and pruned values of what is sent, and the records of both services down to their parts. -/
inductive Format.OnWire : {α : Type} → Format α → Prop
  | uint8 : OnWire .uint8
  | uint16 : OnWire .uint16
  | uint32 : OnWire .uint32
  | uint64 : OnWire .uint64
  | bytes : OnWire .bytes
  | text : OnWire .text
  | counted {α : Type} {f : Format α} : OnWire f → OnWire (.counted f)
  | exactly {α : Type} {f : Format α} (n : Nat) : OnWire f → OnWire (.exactly n f)
  | option {α : Type} {f : Format α} : OnWire f → OnWire (.option f)
  | maybePruned {α : Type} {f : Format α} : OnWire f → OnWire (MaybePruned.format f)
  | stdin : OnWire Stdin.format
  | bn254Proof : OnWire Bn254Proof.format
  | proof : OnWire Proof.format
  | proofWithPublicValues : OnWire ProofWithPublicValues.format
  | systemState : OnWire SystemState.format
  | exitCode : OnWire ExitCode.format
  | input : OnWire inputFormat
  | assumption : OnWire Assumption.format
  | output : OnWire Output.format
  | receiptClaim : OnWire ReceiptClaim.format
  | groth16Receipt : OnWire Groth16Receipt.format
  | innerReceipt : OnWire InnerReceipt.format
  | receipt : OnWire Receipt.format

open Bonsai Succinct in
theorem Format.OnWire.final {f : Format α} (h : f.OnWire) : f.Final := by
  induction h with
  | uint8 | uint16 | uint32 | uint64 => exact Final.number ..
  | bytes => exact Final.bytes
  | text => exact Final.text
  | counted _ ih => exact ih.counted
  | exactly n _ ih => exact ih.exactly n
  | option _ ih => exact ih.option
  | maybePruned _ ih => exact MaybePruned.final ih
  | stdin => exact Stdin.final
  | bn254Proof => exact Bn254Proof.final
  | proof => exact Proof.final
  | proofWithPublicValues => exact ProofWithPublicValues.final
  | systemState => exact SystemState.final
  | exitCode => exact ExitCode.final
  | input => exact Final.empty _
  | assumption => exact Assumption.final
  | output => exact Output.final
  | receiptClaim => exact ReceiptClaim.final
  | groth16Receipt => exact Groth16Receipt.final
  | innerReceipt => exact InnerReceipt.final
  | receipt => exact Receipt.final

/-- A final decoder that wants bytes wants them of every prefix: any other verdict would have
stayed. -/
theorem Decoder.Final.wantsBytes_of_prefix {x : Decoder α} (h : x.Final) {data front : Bytes}
    {failure : Failure} (failed : x data = .error failure) (wants : failure.cause.WantsBytes)
    (hfront : front <+: data) :
    ∃ failure', x front = .error failure' ∧ failure'.cause.WantsBytes := by
  obtain ⟨more, rfl⟩ := hfront
  cases hx : x front with
  | ok read =>
    rw [h.value more hx] at failed
    cases failed
  | error failure' =>
    refine ⟨failure', rfl, Classical.byContradiction fun final => ?_⟩
    rw [h.failure more hx final] at failed
    cases failed
    exact final wants

/-- What is made of some bytes stays with more of them behind: a value with the bytes that it leaves,
and a failure with its path, unless it wants bytes.  And when it wants bytes, it does so of every
prefix. -/
theorem Format.OnWire.verdict_final {f : Format α} (h : f.OnWire) (data : Bytes) :
    (∀ a rest, f.decode data = .ok (a, rest) →
      ∀ more, f.decode (data ++ more) = .ok (a, rest ++ more)) ∧
    (∀ failure, f.decode data = .error failure →
      (∀ needed available, failure.cause ≠ .insufficientBytes needed available) →
      ∀ more, f.decode (data ++ more) = .error failure) ∧
    (∀ path needed available,
      f.decode data = .error ⟨path, .insufficientBytes needed available⟩ →
      ∀ front, front <+: data → ∃ path needed available,
        f.decode front = .error ⟨path, .insufficientBytes needed available⟩) := by
  refine ⟨fun a rest ok more => h.final.value more ok, fun failure failed final more => ?_, ?_⟩
  · refine h.final.failure more failed fun wants => ?_
    obtain ⟨needed, available, cause⟩ := Cause.wantsBytes_iff.1 wants
    exact final needed available cause
  · intro path needed available failed front hfront
    obtain ⟨⟨path', cause'⟩, failed', wants'⟩ :=
      h.final.wantsBytes_of_prefix failed trivial hfront
    obtain ⟨needed', available', rfl⟩ := Cause.wantsBytes_iff.1 wants'
    exact ⟨path', needed', available', failed'⟩

/-- A receipt of a variant that is not read stays one, whatever follows its tag. -/
theorem Format.OnWire.verdict_final_receipt :
    OnWire Bonsai.Receipt.format ∧
      Bonsai.Receipt.format.decode [1, 0, 0, 0] =
        .error ⟨["inner"], .unsupportedVariant "InnerReceipt" 1⟩ ∧
      Bonsai.Receipt.format.decode [1, 0, 0, 0, 7] =
        .error ⟨["inner"], .unsupportedVariant "InnerReceipt" 1⟩ :=
  ⟨.receipt, rfl, (OnWire.verdict_final .receipt [1, 0, 0, 0]).2.1
    ⟨["inner"], .unsupportedVariant "InnerReceipt" 1⟩ rfl nofun [7]⟩

end Codec

end QuoteProver
