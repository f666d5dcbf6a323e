import QuoteProver.Proofs.Codec.Reading
import QuoteProver.Proofs.Collateral.Encoding
import QuoteProver.Proofs.Prover.Session
import QuoteProver.Prover.Client

/-!
# What the guest reads

A guest input is framed twice: the time, the lengths of the quote and of the collateral and both of
them, and inside of the collateral seven lengths and seven fields.  `GuestParts.read` is the guest's
reading of it, which knows nothing of the writers.  `guestInput_unambiguous` says that parts can be
framed when they fit, that the guest then reads exactly these parts and leaves nothing, and so that
no two of them have the same input.
-/

namespace QuoteProver

namespace Prover

/-! ## Framed parts -/

theorem partLength_eq_ok_iff {part : String} {bytes length : Bytes} :
    partLength part bytes = .ok length ↔
      bytes.length < 2 ^ 32 ∧ Bytes.littleEndian 4 bytes.length = length :=
  ite_ok_error_eq_ok_iff

/-- What a guest input is made of. -/
structure GuestParts where
  time : UInt64
  quote : Bytes
  collateral : Collateral
  deriving Repr, DecidableEq

namespace GuestParts

/-- The parts are framed as the given input. -/
def Frames (p : GuestParts) (input : Bytes) : Prop :=
  ∃ encoded, p.collateral.encode = .ok encoded ∧ guestInput p.quote encoded p.time = .ok input

def Fits (p : GuestParts) : Prop :=
  p.quote.length < 2 ^ 32 ∧ p.collateral.encodedSize < 2 ^ 32

def framed (p : GuestParts) : Bytes :=
  Bytes.littleEndian 8 p.time.toNat ++ Bytes.littleEndian 4 p.quote.length ++
    Bytes.littleEndian 4 p.collateral.encodedSize ++ p.quote ++
    (p.collateral.lengths ++ p.collateral.fields.flatten)

theorem frames_iff {p : GuestParts} {input : Bytes} :
    p.Frames input ↔ p.Fits ∧ p.framed = input := by
  have framing (encoded : Bytes) : guestInput p.quote encoded p.time = .ok input ↔
      (p.quote.length < 2 ^ 32 ∧ encoded.length < 2 ^ 32) ∧
        Bytes.littleEndian 8 p.time.toNat ++ Bytes.littleEndian 4 p.quote.length ++
          Bytes.littleEndian 4 encoded.length ++ p.quote ++ encoded = input := by
    simp only [guestInput, bind_eq_ok_iff, partLength_eq_ok_iff]
    constructor
    · rintro ⟨_, ⟨hq, rfl⟩, _, ⟨hc, rfl⟩, h⟩
      cases h
      exact ⟨⟨hq, hc⟩, rfl⟩
    · rintro ⟨⟨hq, hc⟩, rfl⟩
      exact ⟨_, ⟨hq, rfl⟩, _, ⟨hc, rfl⟩, rfl⟩
  simp only [Frames, Collateral.encode_eq_ok_iff, framing]
  constructor
  · rintro ⟨_, ⟨-, rfl⟩, ⟨hq, hc⟩, rfl⟩
    rw [Collateral.length_encoded] at hc ⊢
    exact ⟨⟨hq, hc⟩, rfl⟩
  · rintro ⟨⟨hq, hc⟩, rfl⟩
    -- A field is no longer than the whole encoding.
    have fields : ∀ field ∈ p.collateral.fields, field.length < 2 ^ 32 := fun field h =>
      Nat.lt_of_le_of_lt (Collateral.length_le_encodedSize h) hc
    refine ⟨_, ⟨fields, rfl⟩, ⟨hq, ?_⟩, ?_⟩
    · rwa [Collateral.length_encoded]
    · rw [Collateral.length_encoded, framed]

end GuestParts

/-! ## The guest's reading -/

section Reading

open Codec

variable {α : Type}

def word (width : Nat) : Decoder Nat := Bytes.natOfLittleEndian <$> Codec.take width

/-- Numbers of four bytes, one after another. -/
def words : (n : Nat) → Decoder (List Nat)
  | 0 => return []
  | n + 1 => do
    let w ← word 4
    return w :: (← words n)

/-- Byte strings of the given lengths, one after another. -/
def slices : (lengths : List Nat) → Decoder (List Bytes)
  | [] => return []
  | n :: ns => do
    let slice ← Codec.take n
    return slice :: (← slices ns)

/-- What is read from a whole byte string, of which nothing may be left. -/
def wholly (x : Decoder α) (data : Bytes) : Option α :=
  match x data with
  | .ok (a, []) => some a
  | _ => none

/-- Seven lengths, then as many byte strings of these lengths. -/
def readFields : Decoder (List Bytes) := do slices (← words 7)

/-- The collateral whose fields are given in order. -/
def collateralOf : List Bytes → Option Collateral
  | [tcbInfo, qeIdentity, rootCertificate, signingCertificate, rootCrl, processorCrl,
      platformCrl] =>
    some { tcbInfo, qeIdentity, rootCertificate, signingCertificate, rootCrl, processorCrl,
           platformCrl }
  | _ => none

/-- The time, the lengths of the quote and of the collateral, and both of them. -/
def readFrame : Decoder (Nat × Bytes × Bytes) := do
  let time ← word 8
  let quoteLength ← word 4
  let collateralLength ← word 4
  let quote ← Codec.take quoteLength
  return (time, quote, ← Codec.take collateralLength)

/-- The guest's reading of its input. -/
def GuestParts.read (input : Bytes) : Option GuestParts := do
  let (time, quote, encoded) ← wholly readFrame input
  let fields ← wholly readFields encoded
  return { time := .ofNat time, quote, collateral := ← collateralOf fields }

/-! ## Reading what was framed -/

theorem word_reads {width n : Nat} (h : n < 256 ^ width) :
    (word width).Reads [⟨[], Bytes.littleEndian width n⟩] n := by
  have read := (Decoder.Reads.take (Bytes.littleEndian width n)).map Bytes.natOfLittleEndian
  rwa [Bytes.length_littleEndian, Bytes.natOfLittleEndian_littleEndian, Nat.mod_eq_of_lt h] at read

theorem words_reads {ns : List Nat} (h : ∀ n ∈ ns, n < 2 ^ 32) :
    (words ns.length).Reads (ns.map fun n => ⟨[], Bytes.littleEndian 4 n⟩) ns := by
  induction ns with
  | nil => exact .pure []
  | cons n ns ih =>
    have first : (word 4).Reads _ n := word_reads (h n List.mem_cons_self)
    have rest := ih fun m hm => h m (List.mem_cons_of_mem n hm)
    exact first.bind (rest.bind_nil (.pure (n :: ns)))

theorem slices_reads (parts : List Bytes) :
    (slices (parts.map List.length)).Reads (parts.map fun part => ⟨[], part⟩) parts := by
  induction parts with
  | nil => exact .pure []
  | cons part parts ih =>
    exact (Decoder.Reads.take part).bind (ih.bind_nil (.pure (part :: parts)))

theorem wholly_of_reads {x : Decoder α} {pieces : List Piece} {a : α} (h : x.Reads pieces a) :
    wholly x (pieces.flatMap Piece.bytes) = some a := by
  have whole := h.whole []
  rw [List.append_nil] at whole
  rw [wholly, whole]

end Reading

namespace GuestParts

theorem readFrame_reads {p : GuestParts} (fits : p.Fits) {encoded : Bytes}
    (size : encoded.length = p.collateral.encodedSize) :
    readFrame.Reads
      [⟨[], Bytes.littleEndian 8 p.time.toNat⟩, ⟨[], Bytes.littleEndian 4 p.quote.length⟩,
        ⟨[], Bytes.littleEndian 4 p.collateral.encodedSize⟩, ⟨[], p.quote⟩, ⟨[], encoded⟩]
      (p.time.toNat, p.quote, encoded) := by
  have time : (word 8).Reads _ p.time.toNat := word_reads p.time.toNat_lt
  have quoteLength : (word 4).Reads _ p.quote.length := word_reads fits.1
  have collateralLength : (word 4).Reads _ p.collateral.encodedSize := word_reads fits.2
  have collateral : (Codec.take p.collateral.encodedSize).Reads [⟨[], encoded⟩] encoded :=
    size ▸ .take encoded
  exact time.bind (quoteLength.bind (collateralLength.bind
    ((Codec.Decoder.Reads.take p.quote).bind (collateral.bind_nil (.pure _)))))

theorem readFields_reads {c : Collateral} (fits : c.encodedSize < 2 ^ 32) :
    readFields.Reads ((c.fields.map fun field => ⟨[], Bytes.littleEndian 4 field.length⟩) ++
      c.fields.map fun field => ⟨[], field⟩) c.fields := by
  have short : ∀ n ∈ c.fields.map List.length, n < 2 ^ 32 := by
    intro n hn
    obtain ⟨field, hfield, rfl⟩ := List.mem_map.1 hn
    exact Nat.lt_of_le_of_lt (Collateral.length_le_encodedSize hfield) fits
  have read := (words_reads short).bind (slices_reads c.fields)
  rwa [List.map_map] at read

theorem read_framed {p : GuestParts} (fits : p.Fits) : read p.framed = some p := by
  have frame : wholly readFrame p.framed =
      some (p.time.toNat, p.quote, p.collateral.lengths ++ p.collateral.fields.flatten) := by
    simpa [framed] using wholly_of_reads (readFrame_reads fits p.collateral.length_encoded)
  have fields : wholly readFields (p.collateral.lengths ++ p.collateral.fields.flatten) =
      some p.collateral.fields := by
    have read := wholly_of_reads (readFields_reads fits.2)
    rwa [List.flatMap_append, List.flatMap_map, List.flatMap_map, List.flatMap_id'] at read
  have collateral : collateralOf p.collateral.fields = some p.collateral := rfl
  have time : UInt64.ofNat p.time.toNat = p.time := UInt64.ofNat_toNat
  simp [read, frame, fields, collateral, time]

/-- The client has its backend prove the guest on the framed parts. -/
theorem proveQuote_of_frames {client : Client} {system : ProofSystem} {backend : Backend}
    (found : client.backend system = .ok backend) {p : GuestParts} {input : Bytes}
    (frames : p.Frames input) {scene : Scene Web.Request Web.Answer} (now : scene.time = p.time) :
    client.proveQuote system p.quote p.collateral scene =
      (do Session.note .info source "proving quote"
          let raw ← backend.prove input
          return { system := backend.system, output := raw.output, proof := raw.proof } :
        Work Proof) scene := by
  obtain ⟨encoded, hencoded, hinput⟩ := frames
  have passed : (Session.orFail ((Except.ok encoded).mapError Client.collateralFailure) :
      Work Bytes) scene = (.ok encoded, scene) := rfl
  rw [Client.proveQuote, found, hencoded, Session.bind_of_ok (Session.orFail_ok scene backend)]
  rw [Session.bind_of_ok passed]
  have time : Session.now scene = (.ok p.time, scene) := by rw [← now]; rfl
  rw [Session.bind_of_ok time, hinput, Session.bind_of_ok (Session.orFail_ok scene input)]

/-- Parts can be framed if they fit.  The guest reads the parts that were framed and nothing else, so
no input stands for two of them, and the client proves the guest on just this input. -/
theorem guestInput_unambiguous :
    (∀ p : GuestParts, (∃ input, p.Frames input) ↔
      p.quote.length < 2 ^ 32 ∧ 28 + p.collateral.fields.flatten.length < 2 ^ 32) ∧
    (∀ (p : GuestParts) (input : Bytes), p.Frames input → read input = some p) ∧
    (∀ (p p' : GuestParts) (input : Bytes), p.Frames input → p'.Frames input → p = p') ∧
    ∀ (client : Client) (system : ProofSystem) (backend : Backend) (p : GuestParts) (input : Bytes)
      (scene : Scene Web.Request Web.Answer), client.backend system = .ok backend →
      p.Frames input → scene.time = p.time →
      client.proveQuote system p.quote p.collateral scene =
        (do Session.note .info source "proving quote"
            let raw ← backend.prove input
            return { system := backend.system, output := raw.output, proof := raw.proof } :
          Work Proof) scene := by
  have reads (p : GuestParts) (input : Bytes) (frames : p.Frames input) : read input = some p := by
    obtain ⟨fits, rfl⟩ := frames_iff.1 frames
    exact read_framed fits
  refine ⟨fun p => ?_, reads, fun p p' input frames frames' => ?_, ?_⟩
  · constructor
    · rintro ⟨input, frames⟩
      exact (frames_iff.1 frames).1
    · intro fits
      exact ⟨p.framed, frames_iff.2 ⟨fits, rfl⟩⟩
  · have same : some p = some p' := (reads p input frames).symm.trans (reads p' input frames')
    exact Option.some.inj same
  · intro client system backend p input scene found frames now
    exact proveQuote_of_frames found frames now

/-- A quote of one byte with collateral in which two fields are not empty. -/
theorem guestInput_unambiguous_sample :
    let p : GuestParts :=
      { time := 258, quote := [7], collateral := { tcbInfo := [1, 2], platformCrl := [3] } }
    p.Frames p.framed ∧ read p.framed = some p :=
  have frames := frames_iff.2 ⟨⟨by decide, by decide⟩, rfl⟩
  ⟨frames, guestInput_unambiguous.2.1 _ _ frames⟩

end GuestParts

end Prover

end QuoteProver
