import QuoteProver.Bonsai.Receipt
import QuoteProver.Proofs.Codec.Canonical
import QuoteProver.Proofs.Codec.Reading

/-!
# The wire grammar of receipts

`Receipt.wire` spells out the bytes of a receipt: the fields in order, tags of four bytes, one byte
in front of an optional value, 32 bytes for a digest, and eight bytes of length in front of byte
strings and lists.  `decode_eq_ok_iff_wire` says that the reader of receipts accepts exactly these
bytes, with anything behind them.
-/

namespace QuoteProver.Bonsai

open Codec

/-! ## The grammar -/

section Grammar

variable {α : Type}

def wireWord (n : Nat) : Bytes := Bytes.littleEndian 4 n

/-- A byte string with its length in front. -/
def wireBytes (bs : Bytes) : Bytes := Bytes.littleEndian 8 bs.length ++ bs

/-- A list with its length in front. -/
def wireList (wire : α → Bytes) (as : List α) : Bytes :=
  Bytes.littleEndian 8 as.length ++ as.flatMap wire

/-- A value that may be missing. -/
def wireOption (wire : α → Bytes) : Option α → Bytes
  | none => [0]
  | some a => 1 :: wire a

/-- A value that may be pruned. -/
def MaybePruned.wire (wire : α → Bytes) : MaybePruned α → Bytes
  | .value a => wireWord 0 ++ wire a
  | .pruned digest => wireWord 1 ++ digest.1

end Grammar

def SystemState.wire (s : SystemState) : Bytes := wireWord s.pc.toNat ++ s.merkleRoot.1

def ExitCode.wire : ExitCode → Bytes
  | .halted code => wireWord 0 ++ wireWord code.toNat
  | .paused code => wireWord 1 ++ wireWord code.toNat
  | .systemSplit => wireWord 2
  | .sessionLimit => wireWord 3

def Assumption.wire (a : Assumption) : Bytes := a.claim.1 ++ a.controlRoot.1

def Output.wire (o : Output) : Bytes :=
  o.journal.wire wireBytes ++ o.assumptions.wire (wireList (MaybePruned.wire Assumption.wire))

/-- A claim; a present input has no bytes, since there is none. -/
def ReceiptClaim.wire (c : ReceiptClaim) : Bytes :=
  c.pre.wire SystemState.wire ++ c.post.wire SystemState.wire ++ c.exitCode.wire ++
    c.input.wire (wireOption Empty.elim) ++ c.output.wire (wireOption Output.wire)

def Groth16Receipt.wire (r : Groth16Receipt) : Bytes :=
  wireBytes r.proofSeal ++ r.claim.wire ReceiptClaim.wire ++ r.verifierParameters.1

def InnerReceipt.wire : InnerReceipt → Bytes
  | .groth16 receipt => wireWord 2 ++ receipt.wire

def Receipt.wire (r : Receipt) : Bytes :=
  r.inner.wire ++ wireBytes r.journal ++ r.verifierParameters.1

/-! ## Values that fit -/

/-- The value fits, if it is there. -/
def MaybePruned.Fits {α : Type} (fits : α → Prop) : MaybePruned α → Prop
  | .value a => fits a
  | .pruned _ => True

/-- All lengths in an output can be written. -/
def Output.Fits (o : Output) : Prop :=
  (o.journal.Fits fun bs => bs.length < 2 ^ 64) ∧ o.assumptions.Fits fun as => as.length < 2 ^ 64

/-- All lengths in a claim can be written. -/
def ReceiptClaim.Fits (c : ReceiptClaim) : Prop := c.output.Fits fun o => ∀ output ∈ o, output.Fits

/-- All lengths in a Groth16 proof can be written. -/
def Groth16Receipt.Fits (r : Groth16Receipt) : Prop :=
  r.proofSeal.length < 2 ^ 64 ∧ r.claim.Fits ReceiptClaim.Fits

/-- All lengths in a receipt can be written. -/
def Receipt.Fits (r : Receipt) : Prop :=
  r.inner.groth16Receipt.Fits ∧ r.journal.length < 2 ^ 64

/-! ## The formats write the grammar -/

namespace MaybePruned

variable {α : Type} {f : Format α} {P : α → Prop}

theorem encode_format (f : Format α) (a : MaybePruned α) :
    (MaybePruned.format f).encode a = a.wire f.encode := by
  cases a with
  | value a => simp [MaybePruned.format, wire, wireWord, Format.variantTag]
  | pruned digest => simp [MaybePruned.format, wire, wireWord, Format.variantTag]

theorem readsBack (hf : ∀ a, P a → f.ReadsBack a) {a : MaybePruned α} (h : a.Fits P) :
    (MaybePruned.format f).ReadsBack a := by
  cases a with
  | value a => exact .map (.tagged (k := false) (.variantTag (by decide)) rfl (hf a h)) rfl
  | pruned digest => exact .map (.tagged (k := true) (.variantTag (by decide)) rfl (.digest digest)) rfl

theorem canonical (hf : f.Canonical P) : (MaybePruned.format f).Canonical (Fits P) := by
  let contents : (isPruned : Bool) → (if isPruned then Digest else α) → Prop
    | false, a => P a
    | true, _ => True
  refine .map (P := fun v => contents v.1 v.2) (.tagged .variantTag ?_) ?_ ?_
  · rintro (_ | _)
    · exact hf
    · exact .digest
  · rintro ⟨_ | _, a⟩ ha
    · exact ha
    · trivial
  · rintro ⟨_ | _, a⟩ _ <;> rfl

end MaybePruned

namespace SystemState

theorem encode_format (s : SystemState) : SystemState.format.encode s = s.wire := by
  simp [SystemState.format, wire, wireWord, Format.uint32]

theorem readsBack (s : SystemState) : SystemState.format.ReadsBack s :=
  .map (.and (.field "pc" (.uint32 s.pc)) (.field "merkle_root" (.digest s.merkleRoot))) rfl

theorem canonical : SystemState.format.Canonical fun _ => True :=
  .map (.and (.field "pc" .uint32) (.field "merkle_root" .digest)) (fun _ _ => trivial)
    fun _ _ => rfl

end SystemState

namespace ExitCode

theorem encode_format (e : ExitCode) : ExitCode.format.encode e = e.wire := by
  have tag (n : Nat) : Format.variantTag.encode n = wireWord n := Format.encode_number ..
  have code (n : UInt32) : Format.uint32.encode n = wireWord n.toNat := Format.encode_number ..
  rw [ExitCode.format, Format.encode_map, Format.encode_tagged]
  cases e with
  | halted n =>
    show Format.variantTag.encode 0 ++ Format.uint32.encode n = wireWord 0 ++ wireWord n.toNat
    rw [tag, code]
  | paused n =>
    show Format.variantTag.encode 1 ++ Format.uint32.encode n = wireWord 1 ++ wireWord n.toNat
    rw [tag, code]
  | systemSplit => exact (List.append_nil _).trans (tag 2)
  | sessionLimit => exact (List.append_nil _).trans (tag 3)

theorem readsBack (e : ExitCode) : ExitCode.format.ReadsBack e := by
  have tag (k : ExitCode.Kind) : Format.variantTag.ReadsBack (ExitCode.tags.tag k) :=
    .variantTag (by cases k <;> decide)
  cases e with
  | halted code => exact .map (.tagged (k := .halted) (tag _) rfl (.uint32 code)) rfl
  | paused code => exact .map (.tagged (k := .paused) (tag _) rfl (.uint32 code)) rfl
  | systemSplit => exact .map (.tagged (k := .systemSplit) (tag _) rfl .unit) rfl
  | sessionLimit => exact .map (.tagged (k := .sessionLimit) (tag _) rfl .unit) rfl

theorem canonical : ExitCode.format.Canonical fun _ => True := by
  refine .map (P := fun _ => True) (.tagged (P := fun _ _ => True) .variantTag ?_)
    (fun _ _ => trivial) ?_
  · rintro (_ | _ | _ | _)
    · exact .uint32
    · exact .uint32
    · exact .unit
    · exact .unit
  · rintro ⟨_ | _ | _ | _, a⟩ _ <;> rfl

end ExitCode

namespace Assumption

theorem encode_format (a : Assumption) : Assumption.format.encode a = a.wire := by
  simp [Assumption.format, wire]

theorem readsBack (a : Assumption) : Assumption.format.ReadsBack a :=
  .map (.and (.field "claim" (.digest a.claim)) (.field "control_root" (.digest a.controlRoot))) rfl

theorem canonical : Assumption.format.Canonical fun _ => True :=
  .map (.and (.field "claim" .digest) (.field "control_root" .digest)) (fun _ _ => trivial)
    fun _ _ => rfl

end Assumption

namespace Output

theorem encode_format (o : Output) : Output.format.encode o = o.wire := by
  have assumption : Assumption.format.encode = Assumption.wire := funext Assumption.encode_format
  have pruned : (MaybePruned.format Assumption.format).encode = MaybePruned.wire Assumption.wire :=
    funext fun a => by rw [MaybePruned.encode_format, assumption]
  have bytes : Format.bytes.encode = wireBytes := funext Format.encode_bytes
  have list : Assumption.listFormat.encode = wireList (MaybePruned.wire Assumption.wire) :=
    funext fun as => by rw [Assumption.listFormat, Format.encode_counted, pruned, wireList]
  simp [Output.format, wire, MaybePruned.encode_format, bytes, list]

theorem readsBack {o : Output} (h : o.Fits) : Output.format.ReadsBack o :=
  have list (as : List (MaybePruned Assumption)) (hlen : as.length < 2 ^ 64) :
      Assumption.listFormat.ReadsBack as :=
    .counted hlen fun a _ => MaybePruned.readsBack (P := fun _ => True)
      (fun a _ => a.readsBack) (by cases a <;> trivial)
  .map (.and (.field "journal" (MaybePruned.readsBack (fun _ hlen => .bytes hlen) h.1))
    (.field "assumptions" (MaybePruned.readsBack list h.2))) rfl

theorem canonical : Output.format.Canonical Output.Fits :=
  have list : Assumption.listFormat.Canonical fun as => as.length < 2 ^ 64 :=
    (Format.Canonical.counted (MaybePruned.canonical Assumption.canonical)).mono fun _ h => h.1
  .map (.and (.field "journal" (MaybePruned.canonical .bytes))
    (.field "assumptions" (MaybePruned.canonical list))) (fun _ h => h) fun _ _ => rfl

end Output

namespace ReceiptClaim

theorem encode_format (c : ReceiptClaim) : ReceiptClaim.format.encode c = c.wire := by
  have state : SystemState.format.encode = SystemState.wire := funext SystemState.encode_format
  have input : (Format.option inputFormat).encode = wireOption Empty.elim := by
    funext a
    rcases a with _ | a
    · exact Format.encode_option inputFormat none
    · exact a.elim
  have output : (Format.option Output.format).encode = wireOption Output.wire := by
    funext a
    cases a with
    | none => exact Format.encode_option Output.format none
    | some o =>
      rw [Format.encode_option]
      exact congrArg (1 :: ·) o.encode_format
  simp [ReceiptClaim.format, wire, MaybePruned.encode_format, ExitCode.encode_format, state, input,
    output]

theorem readsBack {c : ReceiptClaim} (h : c.Fits) : ReceiptClaim.format.ReadsBack c :=
  have state (s : MaybePruned SystemState) : (MaybePruned.format SystemState.format).ReadsBack s :=
    MaybePruned.readsBack (P := fun _ => True) (fun s _ => s.readsBack) (by cases s <;> trivial)
  have input (a : MaybePruned (Option Empty)) :
      (MaybePruned.format (.option inputFormat)).ReadsBack a :=
    MaybePruned.readsBack (P := fun _ => True) (fun _ _ => .option fun b => b.elim)
      (by cases a <;> trivial)
  have output (a : Option Output) (ha : ∀ o ∈ a, o.Fits) :
      (Format.option Output.format).ReadsBack a := .option fun o ho => Output.readsBack (ha o ho)
  .map (.and (.field "pre" (state c.pre)) (.and (.field "post" (state c.post))
    (.and (.field "exit_code" c.exitCode.readsBack) (.and (.field "input" (input c.input))
      (.field "output" (MaybePruned.readsBack output h)))))) rfl

theorem canonical : ReceiptClaim.format.Canonical ReceiptClaim.Fits :=
  have state : (MaybePruned.format SystemState.format).Canonical fun _ => True :=
    (MaybePruned.canonical SystemState.canonical).mono fun _ _ => trivial
  have input : (MaybePruned.format (.option inputFormat)).Canonical fun _ => True :=
    (MaybePruned.canonical (Format.Canonical.option (.empty _))).mono fun _ _ => trivial
  .map (.and (.field "pre" state) (.and (.field "post" state)
    (.and (.field "exit_code" ExitCode.canonical) (.and (.field "input" input)
      (.field "output" (MaybePruned.canonical (.option Output.canonical)))))))
    (fun _ h => h.2.2.2.2) fun _ _ => rfl

end ReceiptClaim

namespace Groth16Receipt

theorem encode_format (r : Groth16Receipt) : Groth16Receipt.format.encode r = r.wire := by
  have claim : ReceiptClaim.format.encode = ReceiptClaim.wire := funext ReceiptClaim.encode_format
  simp [Groth16Receipt.format, wire, wireBytes, MaybePruned.encode_format, claim]

theorem readsBack {r : Groth16Receipt} (h : r.Fits) : Groth16Receipt.format.ReadsBack r :=
  .map (.and (.field "seal" (.bytes h.1))
    (.and (.field "claim" (MaybePruned.readsBack (fun _ hc => ReceiptClaim.readsBack hc) h.2))
      (.field "verifier_parameters" (.digest r.verifierParameters)))) rfl

theorem canonical : Groth16Receipt.format.Canonical Groth16Receipt.Fits :=
  .map (.and (.field "seal" .bytes)
    (.and (.field "claim" (MaybePruned.canonical ReceiptClaim.canonical))
      (.field "verifier_parameters" .digest))) (fun _ h => ⟨h.1, h.2.1⟩) fun _ _ => rfl

end Groth16Receipt

namespace InnerReceipt

theorem encode_format (r : InnerReceipt) : InnerReceipt.format.encode r = r.wire := by
  cases r with
  | groth16 r =>
    simp [InnerReceipt.format, wire, wireWord, Format.variantTag, InnerReceipt.tags,
      groth16Receipt, Groth16Receipt.encode_format]

theorem readsBack {r : InnerReceipt} (h : r.groth16Receipt.Fits) : InnerReceipt.format.ReadsBack r := by
  cases r with
  | groth16 r =>
    exact .map (.tagged (k := ()) (.variantTag (by decide)) rfl
      (.field "groth16" (Groth16Receipt.readsBack h))) rfl

theorem canonical : InnerReceipt.format.Canonical fun r => r.groth16Receipt.Fits :=
  .map (.tagged .variantTag fun _ => .field "groth16" Groth16Receipt.canonical) (fun _ h => h)
    fun _ _ => rfl

end InnerReceipt

namespace Receipt

theorem encode_format (r : Receipt) : Receipt.format.encode r = r.wire := by
  simp [Receipt.format, wire, wireBytes, InnerReceipt.encode_format]

theorem readsBack {r : Receipt} (h : r.Fits) : Receipt.format.ReadsBack r :=
  .map (.and (.field "inner" (InnerReceipt.readsBack h.1)) (.and (.field "journal" (.bytes h.2))
    (.field "metadata" (.digest r.verifierParameters)))) rfl

theorem canonical : Receipt.format.Canonical Receipt.Fits :=
  .map (.and (.field "inner" InnerReceipt.canonical) (.and (.field "journal" .bytes)
    (.field "metadata" .digest))) (fun _ h => ⟨h.1, h.2.1⟩) fun _ _ => rfl

/-- A receipt is read from its wire form, and from nothing else; so two byte strings from which the
same receipt is read begin with the same bytes. -/
theorem decode_eq_ok_iff_wire :
    (∀ (data : Bytes) (r : Receipt) (rest : Bytes),
      Receipt.format.decode data = .ok (r, rest) ↔ r.Fits ∧ data = r.wire ++ rest) ∧
    (∀ (data data' : Bytes) (r : Receipt) (rest rest' : Bytes),
      Receipt.format.decode data = .ok (r, rest) → Receipt.format.decode data' = .ok (r, rest') →
      ∃ front, data = front ++ rest ∧ data' = front ++ rest') := by
  have accepts (data : Bytes) (r : Receipt) (rest : Bytes)
      (h : Receipt.format.decode data = .ok (r, rest)) : r.Fits ∧ data = r.wire ++ rest := by
    obtain ⟨front, rfl, fits, rfl⟩ := canonical data r rest h
    exact ⟨fits, by rw [encode_format]⟩
  refine ⟨fun data r rest => ⟨accepts data r rest, ?_⟩, fun data data' r rest rest' h h' => ?_⟩
  · rintro ⟨fits, rfl⟩
    rw [← encode_format]
    exact (readsBack fits).decode_encode_append rest
  · exact ⟨r.wire, (accepts data r rest h).2, (accepts data' r rest' h').2⟩

end Receipt

end QuoteProver.Bonsai
