import QuoteProver.Proofs.Succinct.ProofWire

/-!
# Where an encoding was cut

An `Outline` lists the pieces of a value from the outside to the inside: it is given the path of the
fields that have been entered, and each piece carries its whole path.  `Receipt.outline` and
`ProofWithPublicValues.outline` name all fields of the two records; nothing is added for pruned and
optional values, exit codes and elements, but every tag is called `tag` and every length `len`.
`locate` finds the piece in which a byte stands.

The readers put their paths together from the inside to the outside.  `cut_names_piece` says that the
two agree wherever an encoding is cut: the failure names the piece in which the first missing byte
stands, its width, and the number of its bytes that are there.
-/

namespace QuoteProver.Codec

variable {α β : Type}

/-! ## Locating a byte -/

/-- The piece in which the byte at `p` stands, with the number of its bytes in front of it. -/
def locate : List Piece → Nat → Option (Piece × Nat)
  | [], _ => none
  | piece :: pieces, p =>
    if p < piece.bytes.length then some (piece, p) else locate pieces (p - piece.bytes.length)

theorem locate_append {before after : List Piece} {piece : Piece} {n : Nat}
    (h : n < piece.bytes.length) :
    locate (before ++ piece :: after) ((before.flatMap Piece.bytes).length + n) =
      some (piece, n) := by
  induction before with
  | nil => simp [locate, h]
  | cons first before ih =>
    rw [List.flatMap_cons, List.length_append, Nat.add_assoc, List.cons_append, locate,
      if_neg (by omega), Nat.add_sub_cancel_left, ih]

theorem locate_eq_some_iff {pieces : List Piece} {p n : Nat} {piece : Piece} :
    locate pieces p = some (piece, n) ↔
      ∃ before after, pieces = before ++ piece :: after ∧
        p = (before.flatMap Piece.bytes).length + n ∧ n < piece.bytes.length := by
  constructor
  · intro h
    induction pieces generalizing p with
    | nil => cases h
    | cons first pieces ih =>
      rw [locate] at h
      split at h
      · rename_i inside
        cases h
        exact ⟨[], pieces, rfl, (Nat.zero_add _).symm, inside⟩
      · obtain ⟨before, after, rfl, hp, hn⟩ := ih h
        refine ⟨first :: before, after, rfl, ?_, hn⟩
        rw [List.flatMap_cons, List.length_append]
        omega
  · rintro ⟨before, after, rfl, rfl, hn⟩
    exact locate_append hn

/-- Cut anywhere, the given bytes are not read, and the failure names the piece in which the first
missing byte stands. -/
structure NamesPieces (x : Decoder α) (bytes : Bytes) (pieces : List Piece) : Prop where
  bytes_eq : pieces.flatMap Piece.bytes = bytes
  cut {p : Nat} (h : p < bytes.length) : ∃ piece available,
    locate pieces p = some (piece, available) ∧ available < piece.bytes.length ∧
    x (bytes.take p) = .error ⟨piece.path, .insufficientBytes piece.bytes.length available⟩

theorem Format.ReadsBack.namesPieces {f : Format α} {a : α} (h : f.ReadsBack a) :
    NamesPieces f.decode (f.encode a) (f.pieces a) where
  bytes_eq := rfl
  cut {p} hp := by
    obtain ⟨before, piece, after, n, hpieces, hn, rfl, htake⟩ := exists_piece_of_lt hp
    have located : locate (f.pieces a) _ = some (piece, n) :=
      locate_eq_some_iff.2 ⟨before, after, hpieces, rfl, hn⟩
    refine ⟨piece, n, located, hn, ?_⟩
    rw [encode, htake]
    exact h.cut hpieces hn

/-! ## Outlines -/

/-- The pieces of a value inside of the fields of a path, outermost first. -/
abbrev Outline (α : Type) := (path : List String) → α → List Piece

namespace Outline

def number (width : Nat) : Outline Nat := fun path n => [⟨path, Bytes.littleEndian width n⟩]

def tag (width : Nat) : Outline Nat := fun path n => number width (path ++ ["tag"]) n

def length : Outline Nat := fun path n => number 8 (path ++ ["len"]) n

def bytes : Outline Bytes := fun path bs => length path bs.length ++ [⟨path, bs⟩]

def text : Outline String := fun path s => bytes path (Text.Utf8.encode s)

/-- The elements of an array or of a list, all in the fields around it. -/
def elements (element : Outline α) : Outline (List α) := fun path as => as.flatMap (element path)

def list (element : Outline α) : Outline (List α) := fun path as =>
  length path as.length ++ elements element path as

/-- The bytes of a digest are read one by one. -/
def digest : Outline Digest := fun path d => elements (fun path b => [⟨path, [b]⟩]) path d.1

/-- What follows the tag of an optional value. -/
def present (value : Outline α) : (isPresent : Bool) → Outline (if isPresent then α else Unit)
  | false => fun _ _ => []
  | true => value

def option (value : Outline α) : Outline (Option α)
  | path, none => tag 1 path 0
  | path, some a => tag 1 path 1 ++ value path a

end Outline

/-- A piece as seen from outside of the fields of a path. -/
def Piece.within (path : List String) (piece : Piece) : Piece :=
  { piece with path := path ++ piece.path }

namespace Format

/-- The outline lists the pieces that the format writes. -/
structure Outlined (f : Format α) (o : Outline α) : Prop where
  within : ∀ path a, (f.pieces a).map (Piece.within path) = o path a

theorem Outlined.pieces_eq {f : Format α} {o : Outline α} (h : f.Outlined o) (a : α) :
    f.pieces a = o [] a := by
  have whole : Piece.within [] = id := rfl
  rw [← h.within, whole, List.map_id]

namespace Outlined

theorem number (width : Nat) (toNat : α → Nat) (ofNat : Nat → α) :
    (Format.number width toNat ofNat).Outlined
      fun path a => Outline.number width path (toNat a) where
  within path a := by simp [Format.number, Outline.number, Piece.within]

/-- The field is entered before what is inside of it. -/
theorem field {f : Format α} {o : Outline α} (h : f.Outlined o) (name : String) :
    (f.field name).Outlined fun path a => o (path ++ [name]) a where
  within path a := by
    have enter : Piece.within path ∘ Piece.inField name = Piece.within (path ++ [name]) := by
      funext piece
      simp [Piece.within, Piece.inField]
    rw [Format.field, List.map_map, enter, h.within]

theorem map {f : Format α} {o : Outline α} {o' : Outline β} {ofValue : α → β} {toValue : β → α}
    (h : f.Outlined o) (same : ∀ path b, o path (toValue b) = o' path b) :
    (f.map ofValue toValue).Outlined o' where
  within path b := (h.within path (toValue b)).trans (same path b)

theorem and {f : Format α} {g : Format β} {o : Outline α} {o' : Outline β} (hf : f.Outlined o)
    (hg : g.Outlined o') : (f.and g).Outlined fun path p => o path p.1 ++ o' path p.2 where
  within path p := by rw [Format.and, List.map_append, hf.within, hg.within]

theorem within_flatMap {f : Format α} {o : Outline α} (h : f.Outlined o) (path : List String)
    (as : List α) : (as.flatMap f.pieces).map (Piece.within path) = Outline.elements o path as := by
  rw [List.map_flatMap, Outline.elements]
  simp only [h.within path]

theorem exactly {f : Format α} {o : Outline α} (h : f.Outlined o) (n : Nat) :
    (Format.exactly n f).Outlined fun path as => Outline.elements o path as.1 where
  within path as := h.within_flatMap path as.1

/-- A length is written by its low octets alone. -/
theorem length (path : List String) (n : Nat) :
    (Format.length.pieces (UInt64.ofNat n)).map (Piece.within path) = Outline.length path n := by
  have h := ((number 8 UInt64.toNat UInt64.ofNat).field "len").within path (UInt64.ofNat n)
  rw [Format.length, Format.uint64, h, UInt64.toNat_ofNat', Outline.number, Outline.length,
    Outline.number]
  exact congrArg (fun bs => [Piece.mk (path ++ ["len"]) bs]) (littleEndian_mod 8 n)

theorem counted {f : Format α} {o : Outline α} (h : f.Outlined o) :
    (Format.counted f).Outlined (.list o) where
  within path as := by
    rw [Format.counted, List.map_append, length, h.within_flatMap, Outline.list]

theorem bytes : Format.bytes.Outlined .bytes where
  within path bs := by
    rw [Format.bytes, List.map_append, length]
    simp [Outline.bytes, Piece.within]

theorem text : Format.text.Outlined .text where
  within path s := bytes.within path (Text.Utf8.encode s)

theorem digest : Format.digest.Outlined .digest where
  within path d := by
    have byte : Format.uint8.Outlined fun path b => [⟨path, [b]⟩] :=
      ⟨fun path b => by simp [Format.uint8, Format.number, Piece.within, Bytes.littleEndian]⟩
    exact (byte.exactly 32).within path d

/-- What follows the tag stands in the same fields. -/
theorem tagged {κ : Type} {γ : κ → Type} {width : Nat} {tags : Tags κ}
    {contents : (k : κ) → Format (γ k)} {o : (k : κ) → Outline (γ k)}
    (h : ∀ k, (contents k).Outlined (o k)) :
    (Format.tagged (Format.number width id id) tags contents).Outlined fun path v =>
      Outline.tag width path (tags.tag v.1) ++ o v.1 path v.2 where
  within path v := by
    have tag := ((number width id id).field "tag").within path (tags.tag v.1)
    rw [Format.tagged, List.map_append, tag, (h v.1).within]
    rfl

theorem option {f : Format α} {o : Outline α} (h : f.Outlined o) :
    (Format.option f).Outlined (.option o) := by
  refine map (tagged (o := o.present) ?_) ?_
  · rintro (_ | _)
    · exact ⟨fun _ _ => rfl⟩
    · exact h
  · rintro path (_ | a) <;> rfl

end Outlined

end Format

end QuoteProver.Codec

namespace QuoteProver

open Codec

/-! ## The fields of receipts -/

namespace Bonsai

/-- What follows the tag of a value that may be pruned. -/
def MaybePruned.contentsOutline {α : Type} (value : Outline α) :
    (isPruned : Bool) → Outline (if isPruned then Digest else α)
  | false => value
  | true => .digest

/-- A value or a digest, both in the fields around it. -/
def MaybePruned.outline {α : Type} (value : Outline α) : Outline (MaybePruned α)
  | path, .value a => Outline.tag 4 path 0 ++ value path a
  | path, .pruned digest => Outline.tag 4 path 1 ++ Outline.digest path digest

def SystemState.outline : Outline SystemState := fun path s =>
  Outline.number 4 (path ++ ["pc"]) s.pc.toNat ++
    Outline.digest (path ++ ["merkle_root"]) s.merkleRoot

/-- What follows the tag of an exit code. -/
def ExitCode.contentsOutline : (kind : Kind) → Outline (Contents kind)
  | .halted | .paused => fun path (code : UInt32) => Outline.number 4 path code.toNat
  | .systemSplit | .sessionLimit => fun _ _ => []

def ExitCode.outline : Outline ExitCode
  | path, .halted code => Outline.tag 4 path 0 ++ Outline.number 4 path code.toNat
  | path, .paused code => Outline.tag 4 path 1 ++ Outline.number 4 path code.toNat
  | path, .systemSplit => Outline.tag 4 path 2
  | path, .sessionLimit => Outline.tag 4 path 3

def Assumption.outline : Outline Assumption := fun path a =>
  Outline.digest (path ++ ["claim"]) a.claim ++
    Outline.digest (path ++ ["control_root"]) a.controlRoot

def Output.outline : Outline Output := fun path o =>
  MaybePruned.outline Outline.bytes (path ++ ["journal"]) o.journal ++
    MaybePruned.outline (Outline.list (MaybePruned.outline Assumption.outline))
      (path ++ ["assumptions"]) o.assumptions

def ReceiptClaim.outline : Outline ReceiptClaim := fun path c =>
  MaybePruned.outline SystemState.outline (path ++ ["pre"]) c.pre ++
    (MaybePruned.outline SystemState.outline (path ++ ["post"]) c.post ++
      (ExitCode.outline (path ++ ["exit_code"]) c.exitCode ++
        (MaybePruned.outline (Outline.option fun _ => Empty.elim) (path ++ ["input"]) c.input ++
          MaybePruned.outline (Outline.option Output.outline) (path ++ ["output"]) c.output)))

def Groth16Receipt.outline : Outline Groth16Receipt := fun path r =>
  Outline.bytes (path ++ ["seal"]) r.proofSeal ++
    (MaybePruned.outline ReceiptClaim.outline (path ++ ["claim"]) r.claim ++
      Outline.digest (path ++ ["verifier_parameters"]) r.verifierParameters)

def InnerReceipt.outline : Outline InnerReceipt
  | path, .groth16 r => Outline.tag 4 path 2 ++ Groth16Receipt.outline (path ++ ["groth16"]) r

/-- The parameters of the verifier of a receipt stand in a field of another name. -/
def Receipt.outline : Outline Receipt := fun path r =>
  InnerReceipt.outline (path ++ ["inner"]) r.inner ++
    (Outline.bytes (path ++ ["journal"]) r.journal ++
      Outline.digest (path ++ ["metadata"]) r.verifierParameters)

theorem MaybePruned.outlined {α : Type} {f : Format α} {o : Outline α} (h : f.Outlined o) :
    (MaybePruned.format f).Outlined (MaybePruned.outline o) := by
  refine .map (.tagged (o := contentsOutline o) ?_) ?_
  · rintro (_ | _)
    · exact h
    · exact .digest
  · rintro path (a | digest) <;> rfl

theorem SystemState.outlined : SystemState.format.Outlined outline :=
  .map (.and (.field (.number ..) "pc") (.field .digest "merkle_root")) fun _ _ => rfl

theorem ExitCode.outlined : ExitCode.format.Outlined outline := by
  refine .map (.tagged (o := contentsOutline) ?_) ?_
  · rintro (_ | _ | _ | _)
    · exact .number ..
    · exact .number ..
    · exact ⟨fun _ _ => rfl⟩
    · exact ⟨fun _ _ => rfl⟩
  · rintro path (_ | _ | _ | _) <;> rfl

theorem Assumption.outlined : Assumption.format.Outlined outline :=
  .map (.and (.field .digest "claim") (.field .digest "control_root")) fun _ _ => rfl

theorem Output.outlined : Output.format.Outlined outline :=
  .map (.and (.field (MaybePruned.outlined .bytes) "journal")
    (.field (MaybePruned.outlined (.counted (MaybePruned.outlined Assumption.outlined)))
      "assumptions")) fun _ _ => rfl

theorem ReceiptClaim.outlined : ReceiptClaim.format.Outlined outline :=
  have state := MaybePruned.outlined SystemState.outlined
  have noInput : inputFormat.Outlined fun _ => Empty.elim := ⟨fun _ a => a.elim⟩
  .map (.and (.field state "pre") (.and (.field state "post")
    (.and (.field ExitCode.outlined "exit_code")
      (.and (.field (MaybePruned.outlined (.option noInput)) "input")
        (.field (MaybePruned.outlined (.option Output.outlined)) "output"))))) fun _ _ => rfl

theorem Groth16Receipt.outlined : Groth16Receipt.format.Outlined outline :=
  have claim := MaybePruned.outlined ReceiptClaim.outlined
  .map (.and (.field .bytes "seal") (.and (.field claim "claim")
    (.field .digest "verifier_parameters"))) fun _ _ => rfl

theorem InnerReceipt.outlined : InnerReceipt.format.Outlined outline :=
  .map (.tagged fun _ => .field Groth16Receipt.outlined "groth16") fun _ _ => rfl

theorem Receipt.outlined : Receipt.format.Outlined outline :=
  .map (.and (.field InnerReceipt.outlined "inner") (.and (.field .bytes "journal")
    (.field .digest "metadata"))) fun _ _ => rfl

end Bonsai

/-! ## The fields of proofs -/

namespace Succinct

def Stdin.outline : Outline Stdin := fun path s =>
  Outline.list Outline.bytes (path ++ ["buffer"]) s.buffer ++
    (Outline.number 8 (path ++ ["ptr"]) s.ptr.toNat ++
      Outline.list (fun path n => Outline.number 4 path n.toNat) (path ++ ["proofs"]) s.proofs)

def Bn254Proof.outline : Outline Bn254Proof := fun path p =>
  Outline.elements Outline.text (path ++ ["public_inputs"]) p.publicInputs.1 ++
    (Outline.text (path ++ ["encoded_proof"]) p.encodedProof ++
      (Outline.text (path ++ ["raw_proof"]) p.rawProof ++
        Outline.digest (path ++ ["vkey_hash"]) p.vkeyHash))

def Proof.outline : Outline Proof
  | path, .plonk p => Outline.tag 4 path 2 ++ Bn254Proof.outline (path ++ ["plonk"]) p
  | path, .groth16 p => Outline.tag 4 path 3 ++ Bn254Proof.outline (path ++ ["groth16"]) p

def ProofWithPublicValues.outline : Outline ProofWithPublicValues := fun path p =>
  Proof.outline (path ++ ["proof"]) p.proof ++ (Stdin.outline (path ++ ["stdin"]) p.stdin ++
    (Outline.bytes (path ++ ["public_values"]) p.publicValues ++
      Outline.text (path ++ ["sp1_version"]) p.version))

theorem Stdin.outlined : Stdin.format.Outlined outline :=
  .map (.and (.field (.counted .bytes) "buffer") (.and (.field (.number ..) "ptr")
    (.field (.counted (.number ..)) "proofs"))) fun _ _ => rfl

theorem Bn254Proof.outlined : Bn254Proof.format.Outlined outline :=
  .map (.and (.field (.exactly .text 2) "public_inputs") (.and (.field .text "encoded_proof")
    (.and (.field .text "raw_proof") (.field .digest "vkey_hash")))) fun _ _ => rfl

theorem Proof.outlined : Proof.format.Outlined outline := by
  refine .map (.tagged fun kind => .field Bn254Proof.outlined kind.name) ?_
  rintro path (p | p) <;> rfl

theorem ProofWithPublicValues.outlined : format.Outlined outline :=
  .map (.and (.field Proof.outlined "proof") (.and (.field Stdin.outlined "stdin")
    (.and (.field .bytes "public_values") (.field .text "sp1_version")))) fun _ _ => rfl

end Succinct

/-! ## Cut records -/

namespace Codec

open Bonsai (Receipt)
open Succinct (ProofWithPublicValues)

/-- A receipt or a proof that is cut anywhere is not read, and the failure names the piece in which
the first missing byte stands. -/
theorem cut_names_piece :
    (∀ r : Receipt, r.Fits → NamesPieces Receipt.format.decode r.wire (Receipt.outline [] r)) ∧
    (∀ p : ProofWithPublicValues, p.Fits →
      NamesPieces ProofWithPublicValues.format.decode p.wire (ProofWithPublicValues.outline [] p)) := by
  constructor
  · intro r fits
    rw [← Receipt.outlined.pieces_eq, ← Receipt.encode_format]
    exact (Receipt.readsBack fits).namesPieces
  · intro p fits
    rw [← ProofWithPublicValues.outlined.pieces_eq, ← ProofWithPublicValues.encode_format]
    exact (ProofWithPublicValues.readsBack fits).namesPieces

/-- A receipt with one assumption. -/
def sampleReceipt : Receipt :=
  let digest (b : UInt8) : Digest := ⟨.replicate 32 b, List.length_replicate⟩
  { inner := .groth16 {
      proofSeal := [], verifierParameters := digest 0
      claim := .value {
        pre := .pruned (digest 1), post := .value ⟨2, digest 2⟩, exitCode := .sessionLimit
        input := .value none
        output := .value (some {
          journal := .pruned (digest 3), assumptions := .value [.value ⟨digest 4, digest 5⟩] }) } }
    journal := [7], verifierParameters := digest 6 }

/-- The third byte of the number of assumptions is missing. -/
theorem cut_names_piece_sample :
    sampleReceipt.Fits ∧
      Receipt.format.decode (sampleReceipt.wire.take 148) =
        .error ⟨["inner", "groth16", "claim", "output", "assumptions", "len"],
          .insufficientBytes 8 2⟩ := by
  have fits : sampleReceipt.Fits := by
    refine ⟨⟨by decide, ?_⟩, by decide⟩
    rintro _ ⟨⟩
    exact ⟨trivial, (by decide : 1 < 2 ^ 64)⟩
  have inside : 148 < sampleReceipt.wire.length := by decide +kernel
  have place : locate (Receipt.outline [] sampleReceipt) 148 =
      some (⟨["inner", "groth16", "claim", "output", "assumptions", "len"],
        Bytes.littleEndian 8 1⟩, 2) := by decide
  obtain ⟨piece, available, located, -, failed⟩ := (cut_names_piece.1 sampleReceipt fits).cut inside
  cases place.symm.trans located
  exact ⟨fits, failed⟩

end Codec

end QuoteProver
