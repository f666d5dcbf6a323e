import QuoteProver.Proofs.Codec.Spelling

/-!
# Why decoders fail

A decoder fails as the first of its parts that does (`Decoder.bind_eq_error_iff`).
`x.FailsWith C` says that all causes for which the decoder `x` fails have the property `C`; there is
one rule for each way to build a decoder or a format.
-/

namespace QuoteProver.Codec

variable {α β : Type}

/-- The cause has nothing to do with the variants of a type. -/
def Cause.NoVariant : Cause → Prop
  | .insufficientBytes _ _ | .utf8 _ => True
  | .unknownVariant _ _ | .unsupportedVariant _ _ => False

theorem Cause.noVariant_insufficientBytes (needed available : Nat) :
    (insufficientBytes needed available).NoVariant := trivial

theorem Cause.noVariant_utf8 (fault : Text.Utf8.Fault) : (utf8 fault).NoVariant := trivial

namespace Decoder

/-! ## Failures by parts -/

theorem bind_eq_error_iff {x : Decoder α} {g : α → Decoder β} {data : Bytes} {failure : Failure} :
    (x >>= g) data = .error failure ↔
      x data = .error failure ∨ ∃ a mid, x data = .ok (a, mid) ∧ g a mid = .error failure := by
  cases h : x data with
  | error failure' => simp [bind_of_error h]
  | ok p => simp [bind_of_ok h, Prod.ext_iff]

theorem pure_ne_error {a : α} {data : Bytes} {failure : Failure} :
    ¬ (pure a : Decoder α) data = .error failure := by
  intro h
  cases h

theorem map_eq_error_iff {x : Decoder α} {f : α → β} {data : Bytes} {failure : Failure} :
    (f <$> x) data = .error failure ↔ x data = .error failure := by
  have h : f <$> x = x >>= fun a => pure (f a) := rfl
  rw [h, bind_eq_error_iff]
  simp only [pure_ne_error, and_false, exists_false, or_false]

theorem lift_eq_error_iff {x : Except Failure α} {data : Bytes} {failure : Failure} :
    (liftM x : Decoder α) data = .error failure ↔ x = .error failure := by
  cases x with
  | error failure' => simp [lift_error]
  | ok a => simp [lift_ok]

/-! ## Causes -/

/-- All causes for which the decoder fails have the property. -/
structure FailsWith (x : Decoder α) (C : Cause → Prop) : Prop where
  cause : ∀ {data failure}, x data = .error failure → C failure.cause

namespace FailsWith

variable {C : Cause → Prop}

theorem pure (a : α) : FailsWith (Pure.pure a) C where
  cause h := absurd h pure_ne_error

theorem throw {failure : Failure} (h : C failure.cause) :
    FailsWith (MonadExcept.throw failure : Decoder α) C where
  cause failed := by
    cases failed
    exact h

theorem bind {x : Decoder α} {g : α → Decoder β} (hx : FailsWith x C)
    (hg : ∀ a, FailsWith (g a) C) : FailsWith (x >>= g) C where
  cause failed := by
    rcases bind_eq_error_iff.1 failed with first | ⟨a, mid, -, second⟩
    · exact hx.cause first
    · exact (hg a).cause second

theorem map {x : Decoder α} (f : α → β) (h : FailsWith x C) : FailsWith (f <$> x) C where
  cause failed := h.cause (map_eq_error_iff.1 failed)

theorem take (short : ∀ needed available, C (.insufficientBytes needed available)) (n : Nat) :
    FailsWith (Codec.take n) C where
  cause {data failure} failed := by
    unfold Codec.take at failed
    split at failed
    · cases failed
    · cases failed
      exact short n data.length

/-- The name of a field changes the path alone. -/
theorem inField {x : Decoder α} (name : String) (h : FailsWith x C) :
    FailsWith (fun data => (x data).mapError (Codec.Failure.inField name)) C where
  cause failed := by
    obtain ⟨inner, hx, rfl⟩ := mapError_eq_error_iff.1 failed
    have same : (inner.inField name).cause = inner.cause := rfl
    rw [same]
    exact h.cause hx

theorem decodeMany {f : Format α} (h : FailsWith f.decode C) (n : Nat) :
    FailsWith (f.decodeMany n) C := by
  induction n with
  | zero => exact pure _
  | succ n ih => exact bind h fun a => bind ih fun as => pure _

end FailsWith

end Decoder

namespace Format

/-- All causes for which a value is not read have the property. -/
abbrev FailsWith (f : Format α) (C : Cause → Prop) : Prop := f.decode.FailsWith C

namespace FailsWith

variable {C : Cause → Prop}

theorem field {f : Format α} (h : f.FailsWith C) (name : String) : (f.field name).FailsWith C :=
  Decoder.FailsWith.inField name h

theorem map {f : Format α} (h : f.FailsWith C) (ofValue : α → β) (toValue : β → α) :
    (f.map ofValue toValue).FailsWith C :=
  Decoder.FailsWith.map ofValue h

theorem and {f : Format α} {g : Format β} (hf : f.FailsWith C) (hg : g.FailsWith C) :
    (f.and g).FailsWith C :=
  Decoder.FailsWith.bind hf fun a => Decoder.FailsWith.map (a, ·) hg

theorem exactly {f : Format α} (h : f.FailsWith C) (n : Nat) : (Format.exactly n f).FailsWith C :=
  Decoder.FailsWith.decodeMany h n

section Numbers

variable (short : ∀ needed available, C (.insufficientBytes needed available))
include short

theorem number (width : Nat) (toNat : α → Nat) (ofNat : Nat → α) :
    (Format.number width toNat ofNat).FailsWith C :=
  Decoder.FailsWith.map (fun bytes => ofNat (Bytes.natOfLittleEndian bytes)) (.take short width)

theorem counted {f : Format α} (h : f.FailsWith C) : (Format.counted f).FailsWith C :=
  Decoder.FailsWith.bind ((number short ..).field "len") fun n =>
    Decoder.FailsWith.map Subtype.val (.decodeMany h n.toNat)

theorem bytes : Format.bytes.FailsWith C :=
  Decoder.FailsWith.bind ((number short ..).field "len") fun n => .take short n.toNat

theorem text (invalid : ∀ fault, C (.utf8 fault)) : Format.text.FailsWith C := by
  refine Decoder.FailsWith.bind (bytes short) fun bs => ?_
  cases Text.Utf8.decode bs with
  | ok chars => exact .pure _
  | error fault => exact .throw (invalid fault)

theorem digest : Format.digest.FailsWith C := (number short ..).exactly 32

end Numbers

end FailsWith

theorem decodeFront_eq_ok_iff {f : Format α} {data : Bytes} {a : α} :
    f.decodeFront data = .ok a ↔ ∃ rest, f.decode data = .ok (a, rest) := by
  have h : f.decodeFront data = (fun p => p.1) <$> f.decode data := rfl
  rw [h]
  cases f.decode data <;> simp [Functor.map, Except.map, Prod.ext_iff]

theorem decodeFront_eq_error_iff {f : Format α} {data : Bytes} {failure : Failure} :
    f.decodeFront data = .error failure ↔ f.decode data = .error failure := by
  have h : f.decodeFront data = (fun p => p.1) <$> f.decode data := rfl
  rw [h]
  cases f.decode data <;> simp [Functor.map, Except.map]

/-! ## Variants -/

theorem Tags.kind_eq_error_iff {κ : Type} {tags : Tags κ} {n : Nat} {failure : Failure} :
    tags.kind n = .error failure ↔ (∀ k ∈ tags.kinds, tags.tag k ≠ n) ∧
      failure = ⟨[], if n ∈ tags.unsupported then .unsupportedVariant tags.type n
        else .unknownVariant tags.type n⟩ := by
  unfold Tags.kind
  split
  · rename_i k found
    have hk := List.find?_some found
    have mem := List.mem_of_find?_eq_some found
    simp only [reduceCtorEq, false_iff, not_and]
    exact fun none => absurd (by simpa using hk) (none k mem)
  · rename_i none
    have none' : ∀ k ∈ tags.kinds, tags.tag k ≠ n := by simpa using none
    rw [Except.error.injEq, eq_comm, and_iff_right none']

theorem decode_and_eq_error_iff {f : Format α} {g : Format β} {data : Bytes} {failure : Failure} :
    (f.and g).decode data = .error failure ↔
      f.decode data = .error failure ∨
        ∃ a mid, f.decode data = .ok (a, mid) ∧ g.decode mid = .error failure := by
  have h : (f.and g).decode = f.decode >>= fun a => (a, ·) <$> g.decode := rfl
  rw [h, Decoder.bind_eq_error_iff]
  simp only [Decoder.map_eq_error_iff]

theorem decode_tagged_eq_error_iff {κ : Type} {γ : κ → Type} {number : Format Nat} {tags : Tags κ}
    {contents : (k : κ) → Format (γ k)} {data : Bytes} {failure : Failure} :
    (tagged number tags contents).decode data = .error failure ↔
      (number.field "tag").decode data = .error failure ∨
        ∃ n mid, number.decode data = .ok (n, mid) ∧ (tags.kind n = .error failure ∨
          ∃ k, tags.kind n = .ok k ∧ (contents k).decode mid = .error failure) := by
  rw [tagged]
  simp only [Decoder.bind_eq_error_iff, decode_field_eq_ok_iff, Decoder.lift_eq_error_iff,
    Decoder.lift_eq_ok_iff]
  simp only [Decoder.pure_ne_error, and_false, exists_false, or_false, and_assoc, exists_and_left,
    exists_eq_left']

end Format

end QuoteProver.Codec
