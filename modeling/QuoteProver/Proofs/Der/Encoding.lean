import Mathlib.Algebra.Group.Nat.Defs
import QuoteProver.Der.Element

/-!
# What DER elements are written as

Lengths are written in one form only, in one byte or with a count of octets in front of them, and
eight octets are the most that is read.  So an element is at the front of a byte string exactly if
the byte string starts with its encoding (`Element.read_eq_some_iff`), and a byte string is a run of
elements exactly if it is made of their encodings (`elements_eq_some_iff`).
-/

namespace QuoteProver

/-! ## Octets -/

theorem Bytes.natOfBigEndian_concat (bytes : Bytes) (b : UInt8) :
    Bytes.natOfBigEndian (bytes ++ [b]) = Bytes.natOfBigEndian bytes * 256 + b.toNat := by
  simp [Bytes.natOfBigEndian]

namespace Der

@[simp] theorem octets_zero : octets 0 = [] := by
  rw [octets]
  rfl

theorem octets_of_pos {n : Nat} (h : 0 < n) : octets n = octets (n / 256) ++ [UInt8.ofNat n] := by
  rw [octets, if_neg (Nat.ne_of_gt h)]

theorem natOfBigEndian_octets (n : Nat) : Bytes.natOfBigEndian (octets n) = n := by
  induction n using Nat.strongRecOn with
  | _ n ih =>
    rcases Nat.eq_zero_or_pos n with rfl | h
    · rw [octets_zero]
      rfl
    · rw [octets_of_pos h, Bytes.natOfBigEndian_concat, ih (n / 256) (by omega), UInt8.toNat_ofNat']
      omega

theorem length_octets_le_iff (width n : Nat) : (octets n).length ≤ width ↔ n < 256 ^ width := by
  induction width generalizing n with
  | zero =>
    rcases Nat.eq_zero_or_pos n with rfl | h
    · simp
    · rw [octets_of_pos h, List.length_append, List.length_singleton]
      omega
  | succ width ih =>
    rcases Nat.eq_zero_or_pos n with rfl | h
    · rw [octets_zero]
      exact iff_of_true (Nat.zero_le _) (Nat.pow_pos (by decide))
    · rw [octets_of_pos h, List.length_append, List.length_singleton, Nat.add_le_add_iff_right, ih,
        Nat.pow_succ, Nat.div_lt_iff_lt_mul (by decide)]

/-! ## Lengths -/

theorem length_octets_pos {n : Nat} (h : 0 < n) : 0 < (octets n).length := by
  rw [octets_of_pos h, List.length_append, List.length_singleton]
  omega

theorem readLength_encodeLength {n : Nat} (small : n < 2 ^ 64) (rest : Bytes) :
    readLength (encodeLength n ++ rest) = some (n, rest) := by
  by_cases short : n < 128
  · have first : (UInt8.ofNat n).toNat = n := by
      rw [UInt8.toNat_ofNat']
      omega
    have below : UInt8.ofNat n < 0x80 := by
      rw [UInt8.lt_iff_toNat_lt, first]
      exact short
    rw [encodeLength, if_pos short, List.singleton_append, readLength, if_pos below, first]
  · have most : (octets n).length ≤ 8 := (length_octets_le_iff 8 n).2 small
    have least : 0 < (octets n).length := length_octets_pos (by omega)
    have first : (UInt8.ofNat (128 + (octets n).length)).toNat = 128 + (octets n).length := by
      rw [UInt8.toNat_ofNat']
      omega
    have above : ¬ UInt8.ofNat (128 + (octets n).length) < 0x80 := by
      rw [UInt8.lt_iff_toNat_lt, first]
      show ¬ 128 + (octets n).length < 128
      omega
    have written : encodeLength n = UInt8.ofNat (128 + (octets n).length) :: octets n := by
      rw [encodeLength, if_neg short]
    have enough : ¬ (octets n ++ rest).length < (octets n).length := by
      rw [List.length_append]
      omega
    have none_refused : ((octets n).length = 0 || 8 < (octets n).length ||
        (octets n ++ rest).length < (octets n).length) = false := by
      simp only [Bool.or_eq_false_iff, decide_eq_false_iff_not]
      omega
    rw [written, List.cons_append, readLength, if_neg above]
    dsimp only
    rw [first, Nat.add_sub_cancel_left, none_refused, List.take_left, List.drop_left,
      natOfBigEndian_octets, if_pos written]
    rfl

/-- Only what is written for a length is read as one. -/
theorem readLength_eq_some_iff {data rest : Bytes} {n : Nat} :
    readLength data = some (n, rest) ↔ data = encodeLength n ++ rest ∧ n < 2 ^ 64 := by
  refine ⟨fun h => ?_, fun ⟨written, small⟩ => written ▸ readLength_encodeLength small rest⟩
  cases data with
  | nil => cases h
  | cons b data =>
    unfold readLength at h
    dsimp only at h
    split at h
    · rename_i below
      obtain ⟨rfl, rfl⟩ := Prod.mk.inj (Option.some.inj h)
      have short : b.toNat < 128 := UInt8.lt_iff_toNat_lt.1 below
      refine ⟨?_, by omega⟩
      rw [encodeLength, if_pos short, UInt8.ofNat_toNat, List.singleton_append]
    · split at h
      · cases h
      · split at h
        · rename_i allowed written
          obtain ⟨hn, rfl⟩ := Prod.mk.inj (Option.some.inj h)
          rw [hn] at written
          refine ⟨?_, ?_⟩
          · rw [written, List.cons_append, List.take_append_drop]
          · by_cases short : n < 128
            · omega
            · rw [encodeLength, if_neg short] at written
              have octets_eq : octets n = data.take (b.toNat - 128) := (List.cons.inj written).2
              refine (length_octets_le_iff 8 n).1 ?_
              simp only [Bool.or_eq_true, decide_eq_true_eq, not_or, Nat.not_lt] at allowed
              rw [octets_eq, List.length_take]
              omega
        · cases h

/-! ## Elements -/

namespace Element

/-- The length of the contents can be written in eight octets. -/
def Fits (e : Element) : Prop := e.contents.length < 2 ^ 64

/-- The sequence of the given elements. -/
def sequence (parts : List Element) : Element := ⟨sequenceTag, parts.flatMap encode⟩

theorem length_contents_lt (e : Element) : e.contents.length < e.encode.length := by
  simp only [encode, List.cons_append, List.length_cons, List.length_append]
  omega

/-- The parts of a sequence are shorter than the sequence. -/
theorem Fits.of_mem {e : Element} {parts : List Element} (h : (sequence parts).Fits)
    (mem : e ∈ parts) : e.Fits := by
  have inside : e.encode.length ≤ (parts.flatMap encode).length :=
    (List.sublist_flatten_of_mem (List.mem_map_of_mem mem)).length_le
  exact Nat.lt_trans e.length_contents_lt (Nat.lt_of_le_of_lt inside h)

theorem read_eq_some_iff {data rest : Bytes} {e : Element} :
    read data = some (e, rest) ↔ data = e.encode ++ rest ∧ e.Fits := by
  cases data with
  | nil => simp [read, encode]
  | cons tag data =>
    rw [read, encode, Fits]
    constructor
    · intro h
      split at h
      · cases h
      · rename_i n tail hn
        obtain ⟨rfl, small⟩ := readLength_eq_some_iff.1 hn
        split at h
        · cases h
        · rename_i enough
          obtain ⟨rfl, rfl⟩ := Prod.mk.inj (Option.some.inj h)
          have len : (tail.take n).length = n := List.length_take_of_le (Nat.le_of_not_lt enough)
          refine ⟨?_, by rw [len]; exact small⟩
          show tag :: (encodeLength n ++ tail) =
            tag :: (encodeLength (tail.take n).length ++ tail.take n ++ tail.drop n)
          rw [len, List.append_assoc, List.take_append_drop]
    · rintro ⟨written, small⟩
      simp only [List.cons_append, List.append_assoc, List.cons.injEq] at written
      obtain ⟨rfl, rfl⟩ := written
      have enough : ¬ (e.contents ++ rest).length < e.contents.length := by
        rw [List.length_append]
        omega
      rw [readLength_encodeLength small]
      dsimp only
      rw [if_neg enough, List.take_left, List.drop_left]

end Element

theorem elements_nil : elements [] = some [] := by
  rw [elements]

theorem elements_of_read {data rest : Bytes} {e : Element} (h : Element.read data = some (e, rest)) :
    elements data = (elements rest).map (e :: ·) := by
  cases data with
  | nil => cases h
  | cons b data =>
    rw [elements]
    split
    · rename_i none
      rw [none] at h
      cases h
    · rename_i e' rest' found
      obtain ⟨rfl, rfl⟩ := Prod.mk.inj (Option.some.inj (found.symm.trans h))
      rfl

theorem elements_flatMap_encode {parts : List Element} (fit : ∀ e ∈ parts, e.Fits) :
    elements (parts.flatMap Element.encode) = some parts := by
  induction parts with
  | nil => exact elements_nil
  | cons e parts ih =>
    obtain ⟨first, others⟩ := List.forall_mem_cons.1 fit
    rw [List.flatMap_cons, elements_of_read (Element.read_eq_some_iff.2 ⟨rfl, first⟩), ih others]
    rfl

/-- A byte string is split into elements in one way only. -/
theorem elements_eq_some_iff {data : Bytes} {parts : List Element} :
    elements data = some parts ↔
      data = parts.flatMap Element.encode ∧ ∀ e ∈ parts, e.Fits := by
  refine ⟨fun h => ?_, fun ⟨written, fit⟩ => written ▸ elements_flatMap_encode fit⟩
  fun_induction elements data generalizing parts with
  | case1 =>
    cases h
    simp
  | case2 => cases h
  | case3 b tail e rest found shorter ih =>
    obtain ⟨others, hothers, rfl⟩ := Option.map_eq_some_iff.1 h
    obtain ⟨written, fit⟩ := ih hothers
    obtain ⟨front, first⟩ := Element.read_eq_some_iff.1 found
    exact ⟨by rw [front, written, List.flatMap_cons], List.forall_mem_cons.2 ⟨first, fit⟩⟩

end Der

end QuoteProver
