import Mathlib.Algebra.Group.Nat.Defs
import QuoteProver.Collateral.Basic
import QuoteProver.Proofs.Except

/-!
# Encoded collateral

Collateral is encoded if each of its fields is shorter than `2 ^ 32` bytes (`encode_eq_ok_iff`), and
otherwise the first field that is not decides the failure (`encode_eq_error_iff`).
-/

namespace QuoteProver.Collateral

theorem fieldLength_eq_ok_iff {name : String} {field length : Bytes} :
    fieldLength name field = .ok length ↔
      field.length < 2 ^ 32 ∧ Bytes.littleEndian 4 field.length = length :=
  ite_ok_error_eq_ok_iff

theorem fieldLengths_eq_ok_iff {names : List String} {fields lengths : List Bytes}
    (h : names.length = fields.length) :
    (names.zip fields).mapM (fun part => fieldLength part.1 part.2) = .ok lengths ↔
      (∀ field ∈ fields, field.length < 2 ^ 32) ∧
        fields.map (fun field => Bytes.littleEndian 4 field.length) = lengths := by
  induction fields generalizing names lengths with
  | nil => simp [pure, Except.pure]
  | cons field fields ih =>
    obtain ⟨name, names, rfl⟩ := List.exists_cons_of_length_eq_add_one h
    have sameLength : names.length = fields.length := Nat.succ.inj h
    rw [List.zip_cons_cons, List.mapM_cons, bind_eq_ok_iff]
    simp only [bind_eq_ok_iff, fieldLength_eq_ok_iff, ih sameLength, List.forall_mem_cons]
    constructor
    · rintro ⟨_, ⟨fits, rfl⟩, _, ⟨fit, rfl⟩, result⟩
      cases result
      exact ⟨⟨fits, fit⟩, rfl⟩
    · rintro ⟨⟨fits, fit⟩, rfl⟩
      exact ⟨_, ⟨fits, rfl⟩, _, ⟨fit, rfl⟩, rfl⟩

def lengths (c : Collateral) : Bytes :=
  c.fields.flatMap fun field => Bytes.littleEndian 4 field.length

theorem encode_eq_ok_iff {c : Collateral} {encoded : Bytes} :
    c.encode = .ok encoded ↔
      (∀ field ∈ c.fields, field.length < 2 ^ 32) ∧ c.lengths ++ c.fields.flatten = encoded := by
  have named : fieldNames.length = c.fields.length := rfl
  rw [lengths, List.flatMap_def]
  constructor
  · intro h
    obtain ⟨_, hlengths, h⟩ := bind_eq_ok_iff.1 h
    obtain ⟨fit, rfl⟩ := (fieldLengths_eq_ok_iff named).1 hlengths
    cases h
    exact ⟨fit, rfl⟩
  · rintro ⟨fit, rfl⟩
    exact bind_eq_ok_iff.2 ⟨_, (fieldLengths_eq_ok_iff named).2 ⟨fit, rfl⟩, rfl⟩

theorem fieldLength_eq_error_iff {name : String} {field : Bytes} {failure : Failure} :
    fieldLength name field = .error failure ↔
      2 ^ 32 ≤ field.length ∧ .fieldTooLarge name field.length = failure := by
  unfold fieldLength
  split
  · rename_i fits
    exact ⟨nofun, fun large => absurd fits (Nat.not_lt_of_ge large.1)⟩
  · rename_i large
    rw [Except.error.injEq, iff_and_self]
    exact fun _ => Nat.le_of_not_lt large

theorem encode_eq_error_iff {c : Collateral} {failure : Failure} :
    c.encode = .error failure ↔ ∃ name field,
      FirstWith (fun part => 2 ^ 32 ≤ part.2.length) (fieldNames.zip c.fields) (name, field) ∧
        .fieldTooLarge name field.length = failure := by
  have noError (lengths : List Bytes) :
      ¬ (pure (lengths.flatten ++ c.fields.flatten) : Except Failure Bytes) = .error failure :=
    nofun
  simp only [encode, bind_eq_error_iff, mapM_eq_error_iff, fieldLength_eq_error_iff, noError,
    and_false, exists_false, or_false, exists_and_left, exists_eq', and_true]
  constructor
  · rintro ⟨part, first, -, named⟩
    exact ⟨part.1, part.2, first, named⟩
  · rintro ⟨name, field, first, named⟩
    exact ⟨(name, field), first, first.holds, named⟩

def encodedSize (c : Collateral) : Nat := 28 + c.fields.flatten.length

theorem length_encoded (c : Collateral) :
    (c.lengths ++ c.fields.flatten).length = c.encodedSize := by
  have lengths : c.lengths.length = 28 := by simp [lengths, fields]
  rw [List.length_append, lengths, encodedSize]

theorem length_le_encodedSize {c : Collateral} {field : Bytes} (h : field ∈ c.fields) :
    field.length ≤ c.encodedSize := by
  have part := (List.sublist_flatten_of_mem h).length_le
  unfold encodedSize
  omega

end QuoteProver.Collateral
