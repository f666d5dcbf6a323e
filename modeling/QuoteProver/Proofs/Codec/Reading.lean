import QuoteProver.Codec.Format
import QuoteProver.Proofs.Bytes
import QuoteProver.Proofs.Text.Utf8

/-!
# Reading what was written

`x.Reads pieces a` says how the decoder `x` behaves on the bytes of a list of pieces: in front of
any other bytes it gives `a` and leaves those bytes untouched, and when the bytes end inside a
piece it fails with the path of that piece, its width and the number of its bytes that are there.
The rules follow the construction of decoders: `Reads.pure`, `Reads.bind`, `Reads.take`,
`Reads.inField`.

`f.ReadsBack a` is the same statement about a format and the pieces that it writes for `a`; there
is one lemma for each way to build a format.  `ReadsBack.decode_take` is the law for an encoding
that is cut anywhere.
-/

namespace QuoteProver.Codec

variable {α β : Type}

/-! ## Running decoders -/

namespace Decoder

theorem bind_of_ok {x : Decoder α} {g : α → Decoder β} {data rest : Bytes} {a : α}
    (h : x data = .ok (a, rest)) : (x >>= g) data = g a rest := by
  simp [bind, StateT.bind, Except.bind, h]

theorem bind_of_error {x : Decoder α} {g : α → Decoder β} {data : Bytes} {failure : Failure}
    (h : x data = .error failure) : (x >>= g) data = .error failure := by
  simp [bind, StateT.bind, Except.bind, h]

/-- What a decoder does on the bytes of `pieces`: it gives `a` when they are all there, and names
the piece in which they end otherwise. -/
structure Reads (x : Decoder α) (pieces : List Piece) (a : α) : Prop where
  whole : ∀ rest, x (pieces.flatMap Piece.bytes ++ rest) = .ok (a, rest)
  cut : ∀ {before piece after n}, pieces = before ++ piece :: after → n < piece.bytes.length →
    x (before.flatMap Piece.bytes ++ piece.bytes.take n) =
      .error ⟨piece.path, .insufficientBytes piece.bytes.length n⟩

namespace Reads

theorem pure (a : α) : Reads (pure a) [] a where
  whole _ := rfl
  cut h := by simp at h

/-- A piece of the second part is reached only after the whole first part. -/
theorem bind {x : Decoder α} {g : α → Decoder β} {P Q : List Piece} {a : α} {b : β}
    (hx : Reads x P a) (hg : Reads (g a) Q b) : Reads (x >>= g) (P ++ Q) b where
  whole rest := by
    rw [List.flatMap_append, List.append_assoc, bind_of_ok (hx.whole _)]
    exact hg.whole rest
  cut {before piece after n} h hn := by
    rcases List.append_eq_append_iff.1 h with ⟨before, rfl, hQ⟩ | ⟨tail, hP, htail⟩
    · rw [List.flatMap_append, List.append_assoc, bind_of_ok (hx.whole _)]
      exact hg.cut hQ hn
    · rcases List.cons_eq_append_iff.1 htail with ⟨rfl, hQ⟩ | ⟨tail, rfl, -⟩
      -- The cut falls between the two parts: the first is whole and nothing of the second is there.
      · rw [List.append_nil] at hP
        subst hP
        rw [bind_of_ok (hx.whole _)]
        exact hg.cut (hQ.trans (List.nil_append _).symm) hn
      · exact bind_of_error (hx.cut hP hn)

/-- The second part may read nothing. -/
theorem bind_nil {x : Decoder α} {g : α → Decoder β} {P : List Piece} {a : α} {b : β}
    (hx : Reads x P a) (hg : Reads (g a) [] b) : Reads (x >>= g) P b := by
  have := hx.bind hg
  rwa [List.append_nil] at this

theorem map {x : Decoder α} {P : List Piece} {a : α} (f : α → β) (h : Reads x P a) :
    Reads (f <$> x) P (f a) :=
  bind_nil (g := fun a => Pure.pure (f a)) h (Reads.pure (f a))

theorem take (bytes : Bytes) : Reads (Codec.take bytes.length) [⟨[], bytes⟩] bytes where
  whole rest := by simp [Codec.take]
  cut {before piece after n} h hn := by
    rcases List.cons_eq_append_iff.1 h with ⟨rfl, h⟩ | ⟨tail, rfl, h⟩
    · obtain ⟨rfl, -⟩ := List.cons.inj h
      have hn' : ¬ bytes.length ≤ min n bytes.length := by
        have : n < bytes.length := hn
        omega
      simp only [List.flatMap_nil, List.nil_append, Codec.take, List.length_take, if_neg hn']
      rw [Nat.min_eq_left (Nat.le_of_lt hn)]
    · simp at h

theorem inField {x : Decoder α} {P : List Piece} {a : α} (name : String) (h : Reads x P a) :
    Reads (fun data => (x data).mapError (Failure.inField name)) (P.map (Piece.inField name)) a where
  whole rest := by
    have hP : (P.map (Piece.inField name)).flatMap Piece.bytes = P.flatMap Piece.bytes :=
      List.flatMap_map ..
    rw [hP, h.whole]
    rfl
  cut {before piece after n} hP hn := by
    obtain ⟨before, tail, rfl, rfl, htail⟩ := List.map_eq_append_iff.1 hP
    obtain ⟨piece, after, rfl, rfl, -⟩ := List.map_eq_cons_iff.1 htail
    have hb : (before.map (Piece.inField name)).flatMap Piece.bytes = before.flatMap Piece.bytes :=
      List.flatMap_map ..
    rw [hb]
    exact congrArg (Except.mapError (Failure.inField name)) (h.cut rfl hn)

end Reads

end Decoder

/-! ## Formats -/

namespace Format

/-- The format reads `a` back from its encoding, and names the piece in which a shorter one ends. -/
abbrev ReadsBack (f : Format α) (a : α) : Prop := f.decode.Reads (f.pieces a) a

namespace ReadsBack

theorem number {width : Nat} {toNat : α → Nat} {ofNat : Nat → α} {a : α}
    (h : ofNat (toNat a % 256 ^ width) = a) : (Format.number width toNat ofNat).ReadsBack a := by
  have := (Decoder.Reads.take (Bytes.littleEndian width (toNat a))).map
    fun bytes => ofNat (Bytes.natOfLittleEndian bytes)
  rw [Bytes.length_littleEndian, Bytes.natOfLittleEndian_littleEndian, h] at this
  exact this

theorem uint8 (a : UInt8) : Format.uint8.ReadsBack a := by
  have small : a.toNat < 256 ^ 1 := a.toNat_lt
  exact number (by rw [Nat.mod_eq_of_lt small]; exact UInt8.ofNat_toNat)

theorem uint16 (a : UInt16) : Format.uint16.ReadsBack a := by
  have small : a.toNat < 256 ^ 2 := a.toNat_lt
  exact number (by rw [Nat.mod_eq_of_lt small]; exact UInt16.ofNat_toNat)

theorem uint32 (a : UInt32) : Format.uint32.ReadsBack a := by
  have small : a.toNat < 256 ^ 4 := a.toNat_lt
  exact number (by rw [Nat.mod_eq_of_lt small]; exact UInt32.ofNat_toNat)

theorem uint64 (a : UInt64) : Format.uint64.ReadsBack a := by
  have small : a.toNat < 256 ^ 8 := a.toNat_lt
  exact number (by rw [Nat.mod_eq_of_lt small]; exact UInt64.ofNat_toNat)

theorem variantTag {n : Nat} (h : n < 2 ^ 32) : Format.variantTag.ReadsBack n :=
  number (Nat.mod_eq_of_lt h)

theorem unit : Format.unit.ReadsBack () := Decoder.Reads.pure ()

theorem field (name : String) {f : Format α} {a : α} (h : f.ReadsBack a) :
    (f.field name).ReadsBack a := h.inField name

theorem map {f : Format α} {ofValue : α → β} {toValue : β → α} {b : β}
    (h : f.ReadsBack (toValue b)) (inverse : ofValue (toValue b) = b) :
    (f.map ofValue toValue).ReadsBack b := by
  have := Decoder.Reads.map ofValue h
  rwa [inverse] at this

theorem and {f : Format α} {g : Format β} {a : α} {b : β} (hf : f.ReadsBack a)
    (hg : g.ReadsBack b) : (f.and g).ReadsBack (a, b) :=
  Decoder.Reads.bind hf (Decoder.Reads.map (a, ·) hg)

theorem exactly {f : Format α} {n : Nat} :
    ∀ as : Exactly n α, (∀ a ∈ as.1, f.ReadsBack a) → (Format.exactly n f).ReadsBack as := by
  induction n with
  | zero =>
    rintro ⟨as, h⟩ -
    obtain rfl := List.eq_nil_of_length_eq_zero h
    exact Decoder.Reads.pure _
  | succ n ih =>
    rintro ⟨as, h⟩ has
    cases as with
    | nil => simp at h
    | cons a as =>
      have hlen : as.length = n := by simpa using h
      have hrest := ih ⟨as, hlen⟩ fun b hb => has b (List.mem_cons_of_mem a hb)
      exact Decoder.Reads.bind (has a List.mem_cons_self)
        (Decoder.Reads.bind_nil hrest (Decoder.Reads.pure _))

theorem length {n : Nat} : Format.length.ReadsBack (UInt64.ofNat n) := (uint64 _).field "len"

theorem counted {f : Format α} {as : List α} (hlen : as.length < 2 ^ 64)
    (has : ∀ a ∈ as, f.ReadsBack a) : (Format.counted f).ReadsBack as := by
  have hn : as.length = (UInt64.ofNat as.length).toNat := (UInt64.toNat_ofNat_of_lt hlen).symm
  exact Decoder.Reads.bind length (Decoder.Reads.map Subtype.val (exactly ⟨as, hn⟩ has))

theorem bytes {bs : Bytes} (hlen : bs.length < 2 ^ 64) : Format.bytes.ReadsBack bs := by
  have hn : (UInt64.ofNat bs.length).toNat = bs.length := UInt64.toNat_ofNat_of_lt hlen
  refine Decoder.Reads.bind length ?_
  rw [hn]
  exact Decoder.Reads.take bs

theorem text {s : String} (hlen : (Text.Utf8.encode s).length < 2 ^ 64) :
    Format.text.ReadsBack s := by
  refine Decoder.Reads.bind_nil (bytes hlen) ?_
  have hs : String.ofList s.toList = s := String.ofList_toList
  simp only [Text.Utf8.decode_encode, hs]
  exact Decoder.Reads.pure s

theorem digest (d : Digest) : Format.digest.ReadsBack d :=
  exactly d fun b _ => uint8 b

theorem tagged {κ : Type} {γ : κ → Type} {number : Format Nat} {tags : Tags κ}
    {contents : (k : κ) → Format (γ k)} {k : κ} {c : γ k}
    (hnumber : number.ReadsBack (tags.tag k)) (hkind : tags.kind (tags.tag k) = .ok k)
    (hc : (contents k).ReadsBack c) : (Format.tagged number tags contents).ReadsBack ⟨k, c⟩ := by
  refine Decoder.Reads.bind (hnumber.field "tag") ?_
  have hlift : Decoder.Reads (liftM (tags.kind (tags.tag k)) : Decoder κ) [] k := by
    rw [hkind]
    exact Decoder.Reads.pure k
  exact Decoder.Reads.bind hlift (Decoder.Reads.map (Sigma.mk k) hc)

theorem option {f : Format α} {a : Option α} (h : ∀ b ∈ a, f.ReadsBack b) :
    (Format.option f).ReadsBack a := by
  cases a with
  | none => exact map (tagged (k := false) (number rfl) rfl unit) rfl
  | some b => exact map (tagged (k := true) (number rfl) rfl (h b rfl)) rfl

end ReadsBack

/-! ## Cut encodings -/

/-- Fewer bytes than a list of pieces has end inside one of the pieces. -/
theorem exists_piece_of_lt {pieces : List Piece} {n : Nat}
    (h : n < (pieces.flatMap Piece.bytes).length) :
    ∃ before piece after m, pieces = before ++ piece :: after ∧ m < piece.bytes.length ∧
      n = (before.flatMap Piece.bytes).length + m ∧
      (pieces.flatMap Piece.bytes).take n = before.flatMap Piece.bytes ++ piece.bytes.take m := by
  induction pieces generalizing n with
  | nil => simp at h
  | cons piece pieces ih =>
    rw [List.flatMap_cons, List.length_append] at h
    by_cases hn : n < piece.bytes.length
    · refine ⟨[], piece, pieces, n, rfl, hn, by simp, ?_⟩
      rw [List.flatMap_cons, List.take_append_of_le_length (Nat.le_of_lt hn)]
      rfl
    · obtain ⟨before, piece', after, m, rfl, hm, hlen, htake⟩ :=
        ih (n := n - piece.bytes.length) (by omega)
      refine ⟨piece :: before, piece', after, m, rfl, hm, ?_, ?_⟩
      · rw [List.flatMap_cons, List.length_append]
        omega
      · rw [List.flatMap_cons, List.take_append, List.take_of_length_le (by omega), htake,
          List.flatMap_cons, List.append_assoc]

/-- An encoding is read back, and what follows it is left. -/
theorem ReadsBack.decode_encode_append {f : Format α} {a : α} (h : f.ReadsBack a) (rest : Bytes) :
    f.decode (f.encode a ++ rest) = .ok (a, rest) := h.whole rest

/-- An encoding that is cut short is not read, for want of bytes. -/
theorem ReadsBack.decode_take {f : Format α} {a : α} (h : f.ReadsBack a) {n : Nat}
    (hn : n < (f.encode a).length) :
    ∃ path needed available, available < needed ∧
      f.decode ((f.encode a).take n) = .error ⟨path, .insufficientBytes needed available⟩ := by
  obtain ⟨before, piece, after, m, hpieces, hm, -, htake⟩ := exists_piece_of_lt hn
  exact ⟨piece.path, piece.bytes.length, m, hm, by rw [encode, htake]; exact h.cut hpieces hm⟩

end Format

end QuoteProver.Codec
