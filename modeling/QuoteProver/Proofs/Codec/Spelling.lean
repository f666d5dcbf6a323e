import QuoteProver.Proofs.Codec.Canonical
import QuoteProver.Proofs.Codec.Stream
import QuoteProver.Proofs.Except

/-!
# One spelling for each value

A decoder is taken apart by what each of its parts reads (`Decoder.bind_eq_ok_iff` and one lemma for
each way to build a format).  `Format.decode_eq_ok_iff` says that a value is read from its encoding,
with anything behind it, and from nothing else.  `Shape.spelling` is this for all shapes, with what it
means for texts, optional values, lists and arrays: the bytes of a text are valid UTF-8, the first
byte of an optional value is 0 or 1, and a list is a number and exactly as many elements, read one
after another (`Format.ReadsRun`).
-/

namespace QuoteProver.Codec

open Succinct (Stdin)

variable {α β : Type}

/-! ## Decoders by their parts -/

namespace Decoder

theorem pure_eq_ok_iff {a : α} {data : Bytes} {p : α × Bytes} :
    (pure a : Decoder α) data = .ok p ↔ (a, data) = p := by
  have h : (pure a : Decoder α) data = .ok (a, data) := rfl
  rw [h, Except.ok.injEq]

theorem bind_eq_ok_iff {x : Decoder α} {g : α → Decoder β} {data : Bytes} {p : β × Bytes} :
    (x >>= g) data = .ok p ↔ ∃ a mid, x data = .ok (a, mid) ∧ g a mid = .ok p := by
  refine ⟨ok_of_bind, ?_⟩
  rintro ⟨a, mid, hx, hg⟩
  rw [bind_of_ok hx, hg]

theorem map_eq_ok_iff {x : Decoder α} {f : α → β} {data rest : Bytes} {b : β} :
    (f <$> x) data = .ok (b, rest) ↔ ∃ a, x data = .ok (a, rest) ∧ f a = b := by
  have h : f <$> x = x >>= fun a => pure (f a) := rfl
  rw [h, bind_eq_ok_iff]
  constructor
  · rintro ⟨a, mid, hx, hf⟩
    cases pure_eq_ok_iff.1 hf
    exact ⟨a, hx, rfl⟩
  · rintro ⟨a, hx, rfl⟩
    exact ⟨a, rest, hx, rfl⟩

theorem lift_ok (a : α) (data : Bytes) :
    (liftM (.ok a : Except Failure α) : Decoder α) data = .ok (a, data) := rfl

theorem lift_error (failure : Failure) (data : Bytes) :
    (liftM (.error failure : Except Failure α) : Decoder α) data = .error failure := rfl

theorem lift_eq_ok_iff {x : Except Failure α} {data rest : Bytes} {a : α} :
    (liftM x : Decoder α) data = .ok (a, rest) ↔ x = .ok a ∧ data = rest := by
  cases x with
  | error failure => simp [lift_error]
  | ok b => simp [lift_ok]

end Decoder

namespace Format

theorem decode_eq_ok_iff {f : Format α} {P : α → Prop} (canonical : f.Canonical P)
    (readsBack : ∀ a, P a → f.ReadsBack a) {data rest : Bytes} {a : α} :
    f.decode data = .ok (a, rest) ↔ P a ∧ data = f.encode a ++ rest := by
  constructor
  · intro h
    obtain ⟨front, rfl, fits, rfl⟩ := canonical data a rest h
    exact ⟨fits, rfl⟩
  · rintro ⟨fits, rfl⟩
    exact (readsBack a fits).decode_encode_append rest

theorem decode_field_eq_ok_iff {f : Format α} {name : String} {data : Bytes} {p : α × Bytes} :
    (f.field name).decode data = .ok p ↔ f.decode data = .ok p :=
  mapError_eq_ok_iff

theorem decode_map_eq_ok_iff {f : Format α} {ofValue : α → β} {toValue : β → α} {data rest : Bytes}
    {b : β} :
    (f.map ofValue toValue).decode data = .ok (b, rest) ↔
      ∃ a, f.decode data = .ok (a, rest) ∧ ofValue a = b :=
  Decoder.map_eq_ok_iff

theorem decode_number_eq_ok_iff {width : Nat} {toNat : α → Nat} {ofNat : Nat → α}
    {data rest : Bytes} {a : α} :
    (number width toNat ofNat).decode data = .ok (a, rest) ↔
      ∃ bs : Bytes, bs.length = width ∧ data = bs ++ rest ∧
        ofNat (Bytes.natOfLittleEndian bs) = a := by
  have h : (number width toNat ofNat).decode =
      (fun bs => ofNat (Bytes.natOfLittleEndian bs)) <$> take width := rfl
  rw [h, Decoder.map_eq_ok_iff]
  constructor
  · rintro ⟨bs, hbs, rfl⟩
    obtain ⟨front, rfl, rfl, hlen⟩ := Decoder.Consumes.take width _ _ _ hbs
    exact ⟨bs, hlen, rfl, rfl⟩
  · rintro ⟨bs, rfl, rfl, rfl⟩
    refine ⟨bs, ?_, rfl⟩
    have := (Decoder.Reads.take bs).whole rest
    simpa using this

theorem decode_variantTag_eq_ok_iff {data rest : Bytes} {tag : Nat} :
    variantTag.decode data = .ok (tag, rest) ↔
      tag < 2 ^ 32 ∧ data = Bytes.littleEndian 4 tag ++ rest := by
  constructor
  · intro h
    obtain ⟨bs, hlen, rfl, rfl⟩ := decode_number_eq_ok_iff.1 h
    have small := Bytes.natOfLittleEndian_lt bs
    have bytes := Bytes.littleEndian_natOfLittleEndian bs
    rw [hlen] at small bytes
    exact ⟨small, by rw [id, bytes]⟩
  · rintro ⟨small, rfl⟩
    have := (ReadsBack.variantTag small).decode_encode_append rest
    rwa [variantTag, encode_number] at this

theorem decode_length_eq_ok_iff {data rest : Bytes} {n : UInt64} :
    length.decode data = .ok (n, rest) ↔ data = Bytes.littleEndian 8 n.toNat ++ rest := by
  rw [decode_eq_ok_iff Canonical.length fun n _ => (ReadsBack.uint64 n).field "len", encode_length]
  simp

theorem decode_tagged_eq_ok_iff {κ : Type} {γ : κ → Type} {number : Format Nat} {tags : Tags κ}
    {contents : (k : κ) → Format (γ k)} {data rest : Bytes} {v : Σ k, γ k} :
    (tagged number tags contents).decode data = .ok (v, rest) ↔
      ∃ n mid, number.decode data = .ok (n, mid) ∧ tags.kind n = .ok v.1 ∧
        (contents v.1).decode mid = .ok (v.2, rest) := by
  rw [tagged]
  simp only [Decoder.bind_eq_ok_iff, decode_field_eq_ok_iff, Decoder.lift_eq_ok_iff]
  constructor
  · rintro ⟨n, mid, hn, k, mid', ⟨hk, rfl⟩, c, mid'', hc, hv⟩
    cases Decoder.pure_eq_ok_iff.1 hv
    exact ⟨n, mid, hn, hk, hc⟩
  · rintro ⟨n, mid, hn, hk, hc⟩
    exact ⟨n, mid, hn, v.1, mid, ⟨hk, rfl⟩, v.2, rest, hc, rfl⟩

theorem decode_byte_eq_ok_iff {data rest : Bytes} {n : Nat} :
    (number 1 id id).decode data = .ok (n, rest) ↔ ∃ b : UInt8, b.toNat = n ∧ data = b :: rest := by
  rw [decode_number_eq_ok_iff]
  constructor
  · rintro ⟨bs, hlen, rfl, rfl⟩
    obtain ⟨b, rfl⟩ := List.length_eq_one_iff.1 hlen
    exact ⟨b, by simp [Bytes.natOfLittleEndian], rfl⟩
  · rintro ⟨b, rfl, rfl⟩
    exact ⟨[b], rfl, rfl, by simp [Bytes.natOfLittleEndian]⟩

theorem decode_option_eq_ok_iff {f : Format α} {data rest : Bytes} {a : Option α} :
    (option f).decode data = .ok (a, rest) ↔
      (a = none ∧ data = 0 :: rest) ∨
        ∃ b content, a = some b ∧ data = 1 :: content ∧ f.decode content = .ok (b, rest) := by
  simp only [option, decode_map_eq_ok_iff, decode_tagged_eq_ok_iff, decode_byte_eq_ok_iff]
  constructor
  · rintro ⟨⟨_ | _, c⟩, ⟨_, mid, ⟨b, rfl, rfl⟩, hk, hc⟩, rfl⟩
    · have hb : b = 0 := UInt8.toNat_inj.1 (Canonical.tag_of_kind hk).symm
      cases hc
      exact .inl ⟨rfl, by rw [hb]⟩
    · have hb : b = 1 := UInt8.toNat_inj.1 (Canonical.tag_of_kind hk).symm
      exact .inr ⟨c, mid, rfl, by rw [hb], hc⟩
  · rintro (⟨rfl, rfl⟩ | ⟨b, content, rfl, rfl, hb⟩)
    · exact ⟨⟨false, ()⟩, ⟨0, rest, ⟨0, rfl, rfl⟩, rfl, rfl⟩, rfl⟩
    · exact ⟨⟨true, b⟩, ⟨1, content, ⟨1, rfl, rfl⟩, rfl, hb⟩, rfl⟩

/-! ## Lists -/

/-- Values that are read one after another, each from what the one before has left. -/
inductive ReadsRun (f : Format α) : List α → Bytes → Bytes → Prop
  | nil (rest : Bytes) : ReadsRun f [] rest rest
  | cons {a : α} {as : List α} {data mid rest : Bytes} :
      f.decode data = .ok (a, mid) → ReadsRun f as mid rest → ReadsRun f (a :: as) data rest

theorem decodeMany_eq_ok_iff {f : Format α} {n : Nat} {data rest : Bytes} {as : Exactly n α} :
    f.decodeMany n data = .ok (as, rest) ↔ f.ReadsRun as.1 data rest := by
  induction n generalizing data with
  | zero =>
    obtain ⟨as, hlen⟩ := as
    obtain rfl := List.eq_nil_of_length_eq_zero hlen
    rw [decodeMany, Decoder.pure_eq_ok_iff]
    constructor
    · rintro ⟨⟩
      exact .nil rest
    · rintro ⟨⟩
      rfl
  | succ n ih =>
    obtain ⟨_ | ⟨a, as⟩, hlen⟩ := as
    · simp at hlen
    simp only [decodeMany, Decoder.bind_eq_ok_iff]
    constructor
    · rintro ⟨a', mid, ha, ⟨as', hlen'⟩, mid', has, h⟩
      cases Decoder.pure_eq_ok_iff.1 h
      exact .cons ha (ih.1 has)
    · rintro (_ | ⟨ha, has⟩)
      exact ⟨a, _, ha, ⟨as, Nat.succ.inj hlen⟩, rest, ih.2 has, rfl⟩

theorem decode_counted_eq_ok_iff {f : Format α} {data rest : Bytes} {as : List α} :
    (counted f).decode data = .ok (as, rest) ↔
      as.length < 2 ^ 64 ∧ ∃ content, data = Bytes.littleEndian 8 as.length ++ content ∧
        f.ReadsRun as content rest := by
  simp only [counted, Decoder.bind_eq_ok_iff, decode_length_eq_ok_iff, decodeMany_eq_ok_iff]
  constructor
  · rintro ⟨n, content, rfl, ⟨as', hlen⟩, mid, run, h⟩
    cases Decoder.pure_eq_ok_iff.1 h
    dsimp only at run ⊢
    rw [hlen]
    exact ⟨n.toNat_lt, content, rfl, run⟩
  · rintro ⟨hlen, content, rfl, run⟩
    have hn : (UInt64.ofNat as.length).toNat = as.length := UInt64.toNat_ofNat_of_lt hlen
    exact ⟨.ofNat as.length, content, by rw [hn], ⟨as, hn.symm⟩, rest, run, rfl⟩

/-! ## Texts -/

theorem decode_text_iff {data rest : Bytes} :
    (∃ s, text.decode data = .ok (s, rest)) ↔
      ∃ payload, bytes.decode data = .ok (payload, rest) ∧ payload.toByteArray.IsValidUTF8 := by
  have read (s : String) : text.decode data = .ok (s, rest) ↔
      bytes.decode data = .ok (Text.Utf8.encode s, rest) := by
    rw [decode_eq_ok_iff Canonical.text fun _ => ReadsBack.text,
      decode_eq_ok_iff Canonical.bytes fun _ => ReadsBack.bytes, encode_text]
  simp only [read, Text.Utf8.isValidUTF8_iff]
  constructor
  · rintro ⟨s, h⟩
    exact ⟨_, h, s, rfl⟩
  · rintro ⟨_, h, s, rfl⟩
    exact ⟨s, h⟩

end Format

/-! ## Shapes -/

theorem canonical_stdin : Stdin.format.Canonical Stdin.Fits :=
  .map (.and (.field "buffer" (.counted .bytes)) (.and (.field "ptr" .uint64)
    (.field "proofs" (.counted .uint32)))) (fun _ h => ⟨h.1.1, h.1.2, h.2.2.1⟩) fun _ _ => rfl

namespace Shape

theorem canonical (s : Shape) : s.format.Canonical s.Fits := by
  induction s with
  | u8 => exact .uint8
  | u16 => exact .uint16
  | u32 => exact .uint32
  | u64 => exact .uint64
  | bytes => exact .bytes
  | text => exact .text
  | stdin => exact canonical_stdin
  | list element ih => exact .counted ih
  | array n element ih => exact .exactly ih n
  | option element ih => exact .option ih

theorem decode_eq_ok_iff {s : Shape} {data : Bytes} {v : s.Value} {rest : Bytes} :
    s.format.decode data = .ok (v, rest) ↔ s.Fits v ∧ data = s.format.encode v ++ rest :=
  Format.decode_eq_ok_iff s.canonical fun _ => s.readsBack

/-- A value is read from its encoding alone, so two byte strings from which the same value is read
with the same bytes left are the same.  A text is read if its bytes are valid UTF-8, an optional
value if its first byte is 0 or 1, and a list from its number and as many elements. -/
theorem spelling :
    (∀ (s : Shape) (data : Bytes) (v : s.Value) (rest : Bytes),
      s.format.decode data = .ok (v, rest) ↔ s.Fits v ∧ data = s.format.encode v ++ rest) ∧
    (∀ (s : Shape) (data data' : Bytes) (v : s.Value) (rest : Bytes),
      s.format.decode data = .ok (v, rest) → s.format.decode data' = .ok (v, rest) →
        data = data') ∧
    (∀ data rest : Bytes, (∃ v, text.format.decode data = .ok (v, rest)) ↔
      ∃ payload, bytes.format.decode data = .ok (payload, rest) ∧
        payload.toByteArray.IsValidUTF8) ∧
    (∀ (s : Shape) (data rest : Bytes) (a : Option s.Value),
      (option s).format.decode data = .ok (a, rest) ↔
        (a = none ∧ data = 0 :: rest) ∨
          ∃ b content, a = some b ∧ data = 1 :: content ∧
            s.format.decode content = .ok (b, rest)) ∧
    (∀ (s : Shape) (data rest : Bytes) (as : List s.Value),
      (list s).format.decode data = .ok (as, rest) ↔
        as.length < 2 ^ 64 ∧ ∃ content, data = Bytes.littleEndian 8 as.length ++ content ∧
          s.format.ReadsRun as content rest) ∧
    (∀ (s : Shape) (n : Nat) (data rest : Bytes) (as : Exactly n s.Value),
      (array n s).format.decode data = .ok (as, rest) ↔ s.format.ReadsRun as.1 data rest) := by
  refine ⟨fun s data v rest => decode_eq_ok_iff, fun s data data' v rest h h' => ?_,
    fun data rest => Format.decode_text_iff, fun s data rest a => Format.decode_option_eq_ok_iff,
    fun s data rest as => Format.decode_counted_eq_ok_iff,
    fun s n data rest as => Format.decodeMany_eq_ok_iff⟩
  obtain ⟨-, rfl⟩ := decode_eq_ok_iff.1 h
  exact (decode_eq_ok_iff.1 h').2.symm

end Shape

end QuoteProver.Codec
