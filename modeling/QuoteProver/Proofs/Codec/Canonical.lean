import QuoteProver.Codec.Format
import QuoteProver.Proofs.Bytes
import QuoteProver.Proofs.Text.Utf8

/-!
# Formats with one spelling

`x.Consumes Q` says that whatever the decoder `x` gives was read from the front of the bytes, and
that `Q` holds of the value and of the bytes that were read.  `f.Canonical fits` is the case of a
format: what is read is a value that `fits`, and the bytes that were read are its encoding, so no
value has a second spelling.  There is one lemma for each way to build a format.
-/

namespace QuoteProver.Codec

variable {α β : Type}

/-! ## Decoders -/

namespace Decoder

/-- What a decoder gives comes from the front of the bytes, and is as `Q` says. -/
def Consumes (x : Decoder α) (Q : α → Bytes → Prop) : Prop :=
  ∀ data a rest, x data = .ok (a, rest) → ∃ front, data = front ++ rest ∧ Q a front

theorem ok_of_bind {x : Decoder α} {g : α → Decoder β} {data : Bytes} {p : β × Bytes}
    (h : (x >>= g) data = .ok p) : ∃ a mid, x data = .ok (a, mid) ∧ g a mid = .ok p := by
  cases hx : x data with
  | error failure => simp [bind, StateT.bind, Except.bind, hx] at h
  | ok q => exact ⟨q.1, q.2, rfl, by simpa [bind, StateT.bind, Except.bind, hx] using h⟩

namespace Consumes

theorem mono {x : Decoder α} {P Q : α → Bytes → Prop} (h : Consumes x P)
    (hPQ : ∀ a front, P a front → Q a front) : Consumes x Q := by
  intro data a rest hx
  obtain ⟨front, hdata, hP⟩ := h data a rest hx
  exact ⟨front, hdata, hPQ a front hP⟩

theorem pure (a : α) : Consumes (Pure.pure a) fun b front => b = a ∧ front = [] := by
  intro data b rest h
  cases h
  exact ⟨[], rfl, rfl, rfl⟩

theorem bind {x : Decoder α} {g : α → Decoder β} {P : α → Bytes → Prop}
    {R : α → β → Bytes → Prop} (hx : Consumes x P) (hg : ∀ a, Consumes (g a) (R a)) :
    Consumes (x >>= g) fun b front =>
      ∃ a front₁ front₂, front = front₁ ++ front₂ ∧ P a front₁ ∧ R a b front₂ := by
  intro data b rest h
  obtain ⟨a, mid, h₁, h₂⟩ := ok_of_bind h
  obtain ⟨front₁, rfl, hP⟩ := hx _ _ _ h₁
  obtain ⟨front₂, rfl, hR⟩ := hg a _ _ _ h₂
  exact ⟨front₁ ++ front₂, (List.append_assoc _ _ _).symm, a, front₁, front₂, rfl, hP, hR⟩

/-- Nothing more is read after the last part. -/
theorem map {x : Decoder α} {P : α → Bytes → Prop} (f : α → β) (hx : Consumes x P) :
    Consumes (f <$> x) fun b front => ∃ a, b = f a ∧ P a front := by
  refine (bind (g := fun a => Pure.pure (f a)) hx fun a => Consumes.pure (f a)).mono ?_
  rintro b _ ⟨a, front, _, rfl, hP, rfl, rfl⟩
  exact ⟨a, rfl, (List.append_nil front).symm ▸ hP⟩

theorem take (n : Nat) : Consumes (Codec.take n) fun bs front => bs = front ∧ bs.length = n := by
  intro data bs rest h
  unfold Codec.take at h
  split at h
  · rename_i hn
    cases h
    exact ⟨data.take n, (List.take_append_drop n data).symm, rfl, List.length_take_of_le hn⟩
  · cases h

theorem inField {x : Decoder α} {P : α → Bytes → Prop} (name : String) (hx : Consumes x P) :
    Consumes (fun data => (x data).mapError (Failure.inField name)) P := by
  intro data a rest h
  dsimp only at h
  cases hd : x data with
  | error failure =>
    rw [hd] at h
    cases h
  | ok p =>
    rw [hd] at h
    cases h
    exact hx _ _ _ hd

end Consumes

end Decoder

/-! ## Encodings by their parts -/

/-- A number is written by its low octets alone. -/
theorem littleEndian_mod (width n : Nat) :
    Bytes.littleEndian width (n % 256 ^ width) = Bytes.littleEndian width n := by
  have h := Bytes.littleEndian_natOfLittleEndian (Bytes.littleEndian width n)
  rwa [Bytes.length_littleEndian, Bytes.natOfLittleEndian_littleEndian] at h

namespace Format

@[simp] theorem encode_number (width : Nat) (toNat : α → Nat) (ofNat : Nat → α) (a : α) :
    (number width toNat ofNat).encode a = Bytes.littleEndian width (toNat a) := by
  simp [encode, number]

@[simp] theorem encode_field (name : String) (f : Format α) (a : α) :
    (f.field name).encode a = f.encode a := List.flatMap_map ..

@[simp] theorem encode_map (f : Format α) (ofValue : α → β) (toValue : β → α) (b : β) :
    (f.map ofValue toValue).encode b = f.encode (toValue b) := rfl

@[simp] theorem encode_and (f : Format α) (g : Format β) (p : α × β) :
    (f.and g).encode p = f.encode p.1 ++ g.encode p.2 := List.flatMap_append

@[simp] theorem encode_exactly (n : Nat) (f : Format α) (as : Exactly n α) :
    (exactly n f).encode as = as.1.flatMap f.encode := List.flatMap_assoc

@[simp] theorem encode_length (n : UInt64) :
    length.encode n = Bytes.littleEndian 8 n.toNat := by
  rw [length, encode_field, uint64, encode_number]

@[simp] theorem encode_counted (f : Format α) (as : List α) :
    (counted f).encode as = Bytes.littleEndian 8 as.length ++ as.flatMap f.encode := by
  have h : (counted f).encode as =
      length.encode (UInt64.ofNat as.length) ++ as.flatMap f.encode := by
    rw [encode, counted, List.flatMap_append, List.flatMap_assoc]
    rfl
  rw [h, encode_length, UInt64.toNat_ofNat']
  exact congrArg (· ++ _) (littleEndian_mod 8 as.length)

@[simp] theorem encode_bytes (bs : Bytes) :
    bytes.encode bs = Bytes.littleEndian 8 bs.length ++ bs := by
  have h : bytes.encode bs = length.encode (UInt64.ofNat bs.length) ++ bs := by
    rw [encode, bytes, List.flatMap_append, List.flatMap_singleton]
    rfl
  rw [h, encode_length, UInt64.toNat_ofNat']
  exact congrArg (· ++ _) (littleEndian_mod 8 bs.length)

@[simp] theorem encode_text (s : String) : text.encode s = bytes.encode (Text.Utf8.encode s) := rfl

@[simp] theorem encode_digest (d : Digest) : digest.encode d = d.1 := by
  have hbyte : uint8.encode = fun b => [b] := by
    funext b
    simp [uint8, Bytes.littleEndian]
  rw [digest, encode_exactly, hbyte]
  simp

@[simp] theorem encode_tagged {κ : Type} {γ : κ → Type} (number : Format Nat) (tags : Tags κ)
    (contents : (k : κ) → Format (γ k)) (v : Σ k, γ k) :
    (tagged number tags contents).encode v =
      number.encode (tags.tag v.1) ++ (contents v.1).encode v.2 := by
  rw [encode, tagged, List.flatMap_append]
  exact congrArg (· ++ _) (encode_field "tag" number _)

@[simp] theorem encode_unit (u : Unit) : unit.encode u = [] := rfl

@[simp] theorem encode_option (f : Format α) (a : Option α) :
    (option f).encode a = match a with
      | none => [0]
      | some b => 1 :: f.encode b := by
  cases a <;> simp [option, Bytes.littleEndian]

/-! ## Canonical formats -/

/-- What the format reads fits, and is read from its encoding. -/
def Canonical (f : Format α) (fits : α → Prop) : Prop :=
  f.decode.Consumes fun a front => fits a ∧ front = f.encode a

namespace Canonical

theorem mono {f : Format α} {P Q : α → Prop} (h : f.Canonical P) (hPQ : ∀ a, P a → Q a) :
    f.Canonical Q :=
  Decoder.Consumes.mono h fun a _ hfront => ⟨hPQ a hfront.1, hfront.2⟩

theorem number {width : Nat} {toNat : α → Nat} {ofNat : Nat → α}
    (h : ∀ n < 256 ^ width, toNat (ofNat n) = n) :
    (Format.number width toNat ofNat).Canonical fun _ => True := by
  refine (Decoder.Consumes.map (fun bs => ofNat (Bytes.natOfLittleEndian bs))
    (Decoder.Consumes.take width)).mono ?_
  rintro a _ ⟨bs, rfl, rfl, hlen⟩
  have hlt := Bytes.natOfLittleEndian_lt bs
  have hbytes := Bytes.littleEndian_natOfLittleEndian bs
  rw [hlen] at hlt hbytes
  rw [encode_number, h _ hlt, hbytes]
  exact ⟨trivial, rfl⟩

theorem uint8 : Format.uint8.Canonical fun _ => True :=
  number fun _ h => UInt8.toNat_ofNat_of_lt' h

theorem uint16 : Format.uint16.Canonical fun _ => True :=
  number fun _ h => UInt16.toNat_ofNat_of_lt' h

theorem uint32 : Format.uint32.Canonical fun _ => True :=
  number fun _ h => UInt32.toNat_ofNat_of_lt' h

theorem uint64 : Format.uint64.Canonical fun _ => True :=
  number fun _ h => UInt64.toNat_ofNat_of_lt' h

theorem variantTag : Format.variantTag.Canonical fun _ => True := number fun _ _ => rfl

theorem unit : Format.unit.Canonical fun _ => True :=
  (Decoder.Consumes.pure ()).mono fun _ _ h => ⟨trivial, h.2⟩

theorem empty (cause : Cause) : (Format.empty cause).Canonical fun _ => True := by
  intro data a
  exact nomatch a

theorem field (name : String) {f : Format α} {P : α → Prop} (h : f.Canonical P) :
    (f.field name).Canonical P := by
  refine (Decoder.Consumes.inField name h).mono fun a front hfront => ?_
  rwa [encode_field]

theorem map {f : Format α} {ofValue : α → β} {toValue : β → α} {P : α → Prop} {Q : β → Prop}
    (h : f.Canonical P) (hPQ : ∀ a, P a → Q (ofValue a))
    (inverse : ∀ a, P a → toValue (ofValue a) = a) : (f.map ofValue toValue).Canonical Q := by
  refine (Decoder.Consumes.map ofValue h).mono ?_
  rintro b front ⟨a, rfl, ha, rfl⟩
  rw [encode_map, inverse a ha]
  exact ⟨hPQ a ha, rfl⟩

theorem and {f : Format α} {g : Format β} {P : α → Prop} {Q : β → Prop} (hf : f.Canonical P)
    (hg : g.Canonical Q) : (f.and g).Canonical fun p => P p.1 ∧ Q p.2 := by
  refine (Decoder.Consumes.bind hf fun a => Decoder.Consumes.map (a, ·) hg).mono ?_
  rintro p _ ⟨a, _, _, rfl, ⟨ha, rfl⟩, b, rfl, hb, rfl⟩
  exact ⟨⟨ha, hb⟩, (encode_and f g (a, b)).symm⟩

theorem exactly {f : Format α} {P : α → Prop} (hf : f.Canonical P) (n : Nat) :
    (Format.exactly n f).Canonical fun as => ∀ a ∈ as.1, P a := by
  induction n with
  | zero =>
    refine (Decoder.Consumes.pure _).mono ?_
    rintro _ _ ⟨rfl, rfl⟩
    exact ⟨by simp, by simp⟩
  | succ n ih =>
    refine (Decoder.Consumes.bind hf fun a =>
      Decoder.Consumes.bind ih fun as => Decoder.Consumes.pure _).mono ?_
    rintro _ _ ⟨a, _, _, rfl, ⟨ha, rfl⟩, as, _, _, rfl, ⟨has, rfl⟩, rfl, rfl⟩
    refine ⟨by simpa using ⟨ha, has⟩, by simp⟩

theorem length : Format.length.Canonical fun _ => True := uint64.field "len"

theorem counted {f : Format α} {P : α → Prop} (hf : f.Canonical P) :
    (Format.counted f).Canonical fun as => as.length < 2 ^ 64 ∧ ∀ a ∈ as, P a := by
  refine (Decoder.Consumes.bind length fun n =>
    Decoder.Consumes.map Subtype.val (exactly hf n.toNat)).mono ?_
  rintro as _ ⟨n, _, _, rfl, ⟨-, rfl⟩, ⟨_, hlen⟩, rfl, has, rfl⟩
  have hlt : as.length < 2 ^ 64 := by rw [hlen]; exact n.toNat_lt
  rw [encode_counted, encode_length, encode_exactly, hlen]
  exact ⟨⟨hlt, has⟩, rfl⟩

theorem bytes : Format.bytes.Canonical fun bs => bs.length < 2 ^ 64 := by
  refine (Decoder.Consumes.bind length fun n => Decoder.Consumes.take n.toNat).mono ?_
  rintro bs _ ⟨n, _, _, rfl, ⟨-, rfl⟩, rfl, hlen⟩
  have hlt : bs.length < 2 ^ 64 := by rw [hlen]; exact n.toNat_lt
  rw [encode_bytes, encode_length, ← hlen]
  exact ⟨hlt, rfl⟩

theorem text : Format.text.Canonical fun s => (Text.Utf8.encode s).length < 2 ^ 64 := by
  let content (bs : Bytes) (s : String) (front : Bytes) : Prop :=
    bs = Text.Utf8.encode s ∧ front = []
  refine (Decoder.Consumes.bind (R := content) bytes fun bs data s rest h => ?_).mono ?_
  · cases hchars : Text.Utf8.decode bs with
    | error fault =>
      rw [hchars] at h
      cases h
    | ok chars =>
      rw [hchars] at h
      cases h
      have hbs : bs = chars.flatMap Text.Utf8.encodeChar := Text.Utf8.decode_eq_ok_iff.1 hchars
      exact ⟨[], rfl, by rw [hbs, Text.Utf8.encode, String.toList_ofList], rfl⟩
  · rintro s _ ⟨_, _, _, rfl, ⟨hlen, rfl⟩, rfl, rfl⟩
    exact ⟨hlen, List.append_nil _⟩

theorem digest : Format.digest.Canonical fun _ => True :=
  (exactly uint8 32).mono fun _ _ => trivial

theorem tag_of_kind {κ : Type} {tags : Tags κ} {n : Nat} {k : κ} (h : tags.kind n = .ok k) :
    tags.tag k = n := by
  unfold Tags.kind at h
  split at h
  · rename_i hfind
    cases h
    simpa using List.find?_some hfind
  · cases h

theorem tagged {κ : Type} {γ : κ → Type} {number : Format Nat} {tags : Tags κ}
    {contents : (k : κ) → Format (γ k)} {N : Nat → Prop} {P : (k : κ) → γ k → Prop}
    (hnumber : number.Canonical N) (hcontents : ∀ k, (contents k).Canonical (P k)) :
    (Format.tagged number tags contents).Canonical fun v => P v.1 v.2 := by
  have hkind (n : Nat) : Decoder.Consumes (liftM (tags.kind n) : Decoder κ)
      fun k front => tags.tag k = n ∧ front = [] := by
    intro data k rest h
    cases hk : tags.kind n with
    | error failure =>
      rw [hk] at h
      cases h
    | ok k' =>
      rw [hk] at h
      cases h
      exact ⟨[], rfl, tag_of_kind hk, rfl⟩
  refine (Decoder.Consumes.bind (hnumber.field "tag") fun n => Decoder.Consumes.bind (hkind n)
    fun k => Decoder.Consumes.map (Sigma.mk k) (hcontents k)).mono ?_
  rintro _ _ ⟨n, _, _, rfl, ⟨-, rfl⟩, k, _, _, rfl, ⟨rfl, rfl⟩, c, rfl, hc, rfl⟩
  exact ⟨hc, by simp⟩

theorem option {f : Format α} {P : α → Prop} (hf : f.Canonical P) :
    (Format.option f).Canonical fun a => ∀ b ∈ a, P b := by
  let present : (isPresent : Bool) → (if isPresent then α else Unit) → Prop
    | false, _ => True
    | true, b => P b
  refine map (P := fun v => present v.1 v.2) (tagged (number fun _ _ => rfl) ?_) ?_ ?_
  · rintro (_ | _)
    · exact unit
    · exact hf
  · rintro ⟨_ | _, b⟩ hb
    · rintro _ ⟨⟩
    · rintro _ ⟨⟩
      exact hb
  · rintro ⟨_ | _, b⟩ _ <;> rfl

end Canonical

end Format

end QuoteProver.Codec
