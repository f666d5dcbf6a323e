import QuoteProver.Codec.Format

/-!
# Receipts

A `Receipt` is what the service returns for a finished proof: the proof itself, the journal that
the guest committed, and a digest of the parameters of the verifier.  Of the proof variants only
`groth16` is read.  `Receipt.format` is the binary format.
-/

namespace QuoteProver.Bonsai

open Codec

/-- A value, or the digest that it was pruned to. -/
inductive MaybePruned (α : Type) where
  | value (a : α)
  | pruned (digest : Digest)
  deriving Repr, DecidableEq

/-- A program counter and the root of the memory. -/
structure SystemState where
  pc : UInt32
  merkleRoot : Digest
  deriving Repr, DecidableEq

/-- How the execution of a guest ended. -/
inductive ExitCode where
  | halted (code : UInt32)
  | paused (code : UInt32)
  | systemSplit
  | sessionLimit
  deriving Repr, DecidableEq

/-- A claim that the execution depends on. -/
structure Assumption where
  claim : Digest
  controlRoot : Digest
  deriving Repr, DecidableEq

/-- The journal and the assumptions of an execution. -/
structure Output where
  journal : MaybePruned Bytes
  assumptions : MaybePruned (List (MaybePruned Assumption))
  deriving Repr, DecidableEq

/-- The claim about an execution; no input is ever present in one. -/
structure ReceiptClaim where
  pre : MaybePruned SystemState
  post : MaybePruned SystemState
  exitCode : ExitCode
  input : MaybePruned (Option Empty)
  output : MaybePruned (Option Output)
  deriving DecidableEq

/-- A Groth16 proof of a claim. -/
structure Groth16Receipt where
  proofSeal : Bytes
  claim : MaybePruned ReceiptClaim
  verifierParameters : Digest
  deriving DecidableEq

/-- The proof of a receipt. -/
inductive InnerReceipt where
  | groth16 (receipt : Groth16Receipt)
  deriving DecidableEq

/-- The Groth16 proof of a receipt. -/
def InnerReceipt.groth16Receipt : InnerReceipt → Groth16Receipt
  | .groth16 receipt => receipt

/-- What the service returns for a finished proof. -/
structure Receipt where
  inner : InnerReceipt
  journal : Bytes
  verifierParameters : Digest
  deriving DecidableEq

/-- The version of the Groth16 verifier that the seals are made for. -/
def groth16Selector : Bytes := [0x50, 0xbd, 0x17, 0x69]

/-- A seal in the form in which verifier contracts take it: the selector in front. -/
def groth16Encode (proofSeal : Bytes) : Bytes := groth16Selector ++ proofSeal

/-! ## Formats -/

/-- The format of a value that may be pruned: tag 0 and the value, or tag 1 and the digest. -/
def MaybePruned.format {α : Type} (f : Format α) : Format (MaybePruned α) :=
  (Format.tagged (β := fun isPruned => if isPruned then Digest else α) .variantTag
    { type := "MaybePruned", kinds := [false, true], tag := Bool.toNat }
    fun | false => f | true => .digest).map
    (fun | ⟨false, a⟩ => .value a | ⟨true, digest⟩ => .pruned digest)
    (fun | .value a => ⟨false, a⟩ | .pruned digest => ⟨true, digest⟩)

/-- The format of a system state. -/
def SystemState.format : Format SystemState :=
  ((Format.uint32.field "pc").and (Format.digest.field "merkle_root")).map
    (fun (pc, merkleRoot) => { pc, merkleRoot }) (fun s => (s.pc, s.merkleRoot))

/-- The variants of an exit code. -/
inductive ExitCode.Kind where
  | halted | paused | systemSplit | sessionLimit
  deriving Repr, DecidableEq

/-- The tags of exit codes. -/
def ExitCode.tags : Format.Tags ExitCode.Kind where
  type := "ExitCode"
  kinds := [.halted, .paused, .systemSplit, .sessionLimit]
  tag | .halted => 0 | .paused => 1 | .systemSplit => 2 | .sessionLimit => 3

/-- The contents of an exit code of each variant. -/
def ExitCode.Contents : ExitCode.Kind → Type
  | .halted | .paused => UInt32
  | .systemSplit | .sessionLimit => Unit

/-- The format of an exit code: a code follows the tags 0 and 1. -/
def ExitCode.format : Format ExitCode :=
  (Format.tagged (β := ExitCode.Contents) .variantTag ExitCode.tags
    fun
    | .halted | .paused => Format.uint32
    | .systemSplit | .sessionLimit => Format.unit).map
    (fun
      | ⟨.halted, code⟩ => .halted code
      | ⟨.paused, code⟩ => .paused code
      | ⟨.systemSplit, _⟩ => .systemSplit
      | ⟨.sessionLimit, _⟩ => .sessionLimit)
    (fun
      | .halted code => ⟨.halted, code⟩
      | .paused code => ⟨.paused, code⟩
      | .systemSplit => ⟨.systemSplit, ()⟩
      | .sessionLimit => ⟨.sessionLimit, ()⟩)

/-- The format of an assumption. -/
def Assumption.format : Format Assumption :=
  ((Format.digest.field "claim").and (Format.digest.field "control_root")).map
    (fun (claim, controlRoot) => { claim, controlRoot }) (fun a => (a.claim, a.controlRoot))

/-- The format of the assumptions of an execution. -/
def Assumption.listFormat : Format (List (MaybePruned Assumption)) :=
  .counted (MaybePruned.format Assumption.format)

/-- The format of an output. -/
def Output.format : Format Output :=
  (((MaybePruned.format .bytes).field "journal").and
    ((MaybePruned.format Assumption.listFormat).field "assumptions")).map
    (fun (journal, assumptions) => { journal, assumptions })
    (fun o => (o.journal, o.assumptions))

/-- The format of an input: the variants of a present one are never read. -/
def inputFormat : Format Empty := .empty (.unsupportedVariant "Input" 1)

/-- The format of a claim. -/
def ReceiptClaim.format : Format ReceiptClaim :=
  (((MaybePruned.format SystemState.format).field "pre").and
    (((MaybePruned.format SystemState.format).field "post").and
      ((ExitCode.format.field "exit_code").and
        (((MaybePruned.format (.option inputFormat)).field "input").and
          ((MaybePruned.format (.option Output.format)).field "output"))))).map
    (fun (pre, post, exitCode, input, output) => { pre, post, exitCode, input, output })
    (fun c => (c.pre, c.post, c.exitCode, c.input, c.output))

/-- The format of a Groth16 proof. -/
def Groth16Receipt.format : Format Groth16Receipt :=
  ((Format.bytes.field "seal").and
    (((MaybePruned.format ReceiptClaim.format).field "claim").and
      (Format.digest.field "verifier_parameters"))).map
    (fun (proofSeal, claim, verifierParameters) => { proofSeal, claim, verifierParameters })
    (fun r => (r.proofSeal, r.claim, r.verifierParameters))

/-- The tags of proof variants: composite, succinct and fake proofs are not read. -/
def InnerReceipt.tags : Format.Tags Unit where
  type := "InnerReceipt"
  kinds := [()]
  tag _ := 2
  unsupported := [0, 1, 3]

/-- The format of the proof of a receipt. -/
def InnerReceipt.format : Format InnerReceipt :=
  (Format.tagged (β := fun _ => Groth16Receipt) .variantTag InnerReceipt.tags
    fun _ => Groth16Receipt.format.field "groth16").map
    (fun v => .groth16 v.2) (fun r => ⟨(), r.groth16Receipt⟩)

/-- The format of a receipt. -/
def Receipt.format : Format Receipt :=
  ((InnerReceipt.format.field "inner").and
    ((Format.bytes.field "journal").and (Format.digest.field "metadata"))).map
    (fun (inner, journal, verifierParameters) => { inner, journal, verifierParameters })
    (fun r => (r.inner, r.journal, r.verifierParameters))

end QuoteProver.Bonsai
