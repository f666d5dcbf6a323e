import QuoteProver.Proofs.Codec.Canonical
import QuoteProver.Proofs.Codec.Causes

/-!
# Byte strings as lists of bytes

`Format.bytes` takes all of its contents in one step, and `Format.counted Format.uint8` reads them one
by one.  Byte by byte, what is all there is read as it stands (`decodeMany_uint8`), and a missing byte
is found only after all those that are there (`decodeMany_uint8_of_lt`).  `bytes_refines_counted` says
that the two formats are one and the same on the wire, whatever the announced length is: they differ in
the numbers of a failure alone.
-/

namespace QuoteProver.Codec

variable {α : Type}

theorem take_of_le {n : Nat} {data : Bytes} (held : n ≤ data.length) :
    take n data = .ok (data.take n, data.drop n) :=
  if_pos held

theorem take_of_lt {n : Nat} {data : Bytes} (short : data.length < n) :
    take n data = .error ⟨[], .insufficientBytes n data.length⟩ :=
  if_neg (Nat.not_le.2 short)

namespace Format

/-! ## Byte by byte -/

theorem encode_uint8 (b : UInt8) : uint8.encode b = [b] := by
  simp [uint8, Bytes.littleEndian]

theorem decode_uint8_cons (b : UInt8) (rest : Bytes) : uint8.decode (b :: rest) = .ok (b, rest) := by
  have read := (ReadsBack.uint8 b).decode_encode_append rest
  rwa [encode_uint8] at read

theorem decodeMany_uint8 {n : Nat} (bs : Exactly n UInt8) (rest : Bytes) :
    uint8.decodeMany n (bs.1 ++ rest) = .ok (bs, rest) := by
  have read := (ReadsBack.exactly bs fun b _ => ReadsBack.uint8 b).decode_encode_append rest
  rwa [encode_exactly, funext encode_uint8, List.flatMap_singleton'] at read

theorem decodeMany_uint8_of_lt {n : Nat} {data : Bytes} (short : data.length < n) :
    uint8.decodeMany n data = .error ⟨[], .insufficientBytes 1 0⟩ := by
  induction n generalizing data with
  | zero => exact absurd short (Nat.not_lt_zero _)
  | succ n ih =>
    cases data with
    | nil => exact Decoder.bind_of_error rfl
    | cons b data =>
      rw [decodeMany, Decoder.bind_of_ok (decode_uint8_cons b data)]
      exact Decoder.bind_of_error (ih (Nat.lt_of_succ_lt_succ short))

/-! ## One wire format -/

/-- Two results for the same bytes: one value with the same bytes left, or two failures in one place,
both for want of bytes. -/
inductive Agree : Except Failure (α × Bytes) → Except Failure (α × Bytes) → Prop
  | value (a : α) (rest : Bytes) : Agree (.ok (a, rest)) (.ok (a, rest))
  | short (path : List String) (needed available needed' available' : Nat) :
      Agree (.error ⟨path, .insufficientBytes needed available⟩)
        (.error ⟨path, .insufficientBytes needed' available'⟩)

/-- The contents of the announced length, at once and byte by byte. -/
theorem agree_contents (n : Nat) (data : Bytes) :
    Agree (take n data) ((Subtype.val <$> uint8.decodeMany n : Decoder (List UInt8)) data) := by
  rcases Nat.lt_or_ge data.length n with short | held
  · rw [take_of_lt short, Decoder.map_eq_error_iff.2 (decodeMany_uint8_of_lt short)]
    exact .short [] n data.length 1 0
  · have read := decodeMany_uint8 ⟨data.take n, List.length_take_of_le held⟩ (data.drop n)
    rw [List.take_append_drop] at read
    rw [take_of_le held, Decoder.map_eq_ok_iff.2 ⟨_, read, rfl⟩]
    exact .value _ _

theorem agree_counted (data : Bytes) : Agree (bytes.decode data) ((counted uint8).decode data) := by
  have fast : bytes.decode = length.decode >>= fun n => take n.toNat := rfl
  have slow : (counted uint8).decode =
      length.decode >>= fun n => Subtype.val <$> uint8.decodeMany n.toNat := rfl
  have fails : length.FailsWith fun cause =>
      ∃ needed available, cause = .insufficientBytes needed available :=
    .field (.number (fun needed available => ⟨needed, available, rfl⟩) 8 _ _) "len"
  rw [fast, slow]
  cases announced : length.decode data with
  | error failure =>
    obtain ⟨needed, available, cause⟩ := fails.cause announced
    obtain ⟨path, _⟩ := failure
    cases cause
    rw [Decoder.bind_of_error announced, Decoder.bind_of_error announced]
    exact .short path needed available needed available
  | ok read =>
    obtain ⟨n, contents⟩ := read
    rw [Decoder.bind_of_ok announced, Decoder.bind_of_ok announced]
    exact agree_contents n.toNat contents

/-- A byte string is read from the same bytes as a list of bytes, with the same bytes left, and where
one of them is not read, neither is the other: bytes are missing for both, in the same field.  Both are
written as their length and their bytes. -/
theorem bytes_refines_counted :
    (∀ data bs rest, bytes.decode data = .ok (bs, rest) ↔
      (counted uint8).decode data = .ok (bs, rest)) ∧
    (∀ data, (∃ failure, bytes.decode data = .error failure) ↔
      ∃ failure, (counted uint8).decode data = .error failure) ∧
    (∀ data failure failure', bytes.decode data = .error failure →
      (counted uint8).decode data = .error failure' →
        failure.path = failure'.path ∧
        (∃ needed available, failure.cause = .insufficientBytes needed available) ∧
        ∃ needed available, failure'.cause = .insufficientBytes needed available) ∧
    ∀ bs : Bytes, bytes.encode bs = (counted uint8).encode bs ∧
      bytes.encode bs = Bytes.littleEndian 8 bs.length ++ bs := by
  refine ⟨fun data bs rest => ?_, fun data => ?_, fun data failure failure' h h' => ?_, fun bs => ?_⟩
  · have agree := agree_counted data
    generalize bytes.decode data = x, (counted uint8).decode data = y at agree
    cases agree <;> simp
  · have agree := agree_counted data
    generalize bytes.decode data = x, (counted uint8).decode data = y at agree
    cases agree <;> simp
  · have agree := agree_counted data
    rw [h, h'] at agree
    cases agree
    exact ⟨rfl, ⟨_, _, rfl⟩, _, _, rfl⟩
  · rw [encode_counted, encode_bytes, funext encode_uint8, List.flatMap_singleton']
    exact ⟨rfl, rfl⟩

/-- Two bytes are announced and one is there: the one reader misses both, the other the second. -/
theorem bytes_refines_counted_short :
    ∃ failure failure', bytes.decode [2, 0, 0, 0, 0, 0, 0, 0, 0xAB] = .error failure ∧
      (counted uint8).decode [2, 0, 0, 0, 0, 0, 0, 0, 0xAB] = .error failure' ∧
      failure.path = failure'.path ∧ failure.cause = .insufficientBytes 2 1 ∧
      failure'.cause = .insufficientBytes 1 0 := by
  have atOnce : bytes.decode [2, 0, 0, 0, 0, 0, 0, 0, 0xAB] =
      .error ⟨[], .insufficientBytes 2 1⟩ := by decide +kernel
  have oneByOne : (counted uint8).decode [2, 0, 0, 0, 0, 0, 0, 0, 0xAB] =
      .error ⟨[], .insufficientBytes 1 0⟩ := by decide +kernel
  have agree := (bytes_refines_counted.2.2.1 _ _ _ atOnce oneByOne).1
  exact ⟨_, _, atOnce, oneByOne, agree, rfl, rfl⟩

end Format

end QuoteProver.Codec
