import Mathlib.Algebra.Group.Nat.Defs
import QuoteProver.Bytes

/-!
# Numbers of a fixed width

Writing a number in `width` bytes keeps it modulo `256 ^ width`, and every byte string is what the
number it stands for is written as.
-/

namespace QuoteProver.Bytes

theorem natOfLittleEndian_littleEndian (width n : Nat) :
    natOfLittleEndian (littleEndian width n) = n % 256 ^ width := by
  induction width generalizing n with
  | zero => simp [littleEndian, natOfLittleEndian, Nat.mod_one]
  | succ width ih =>
    simp only [littleEndian, natOfLittleEndian, ih]
    have hb : (UInt8.ofNat n).toNat = n % 256 := by simp
    rw [hb, Nat.pow_succ, Nat.mul_comm (256 ^ width) 256, Nat.mod_mul]

/-- Numbers that fit are told apart by their octets. -/
theorem littleEndian_inj {width m n : Nat} (hm : m < 256 ^ width) (hn : n < 256 ^ width)
    (same : littleEndian width m = littleEndian width n) : m = n := by
  have numbers := congrArg natOfLittleEndian same
  rwa [natOfLittleEndian_littleEndian, natOfLittleEndian_littleEndian, Nat.mod_eq_of_lt hm,
    Nat.mod_eq_of_lt hn] at numbers

theorem natOfLittleEndian_lt (bytes : Bytes) : natOfLittleEndian bytes < 256 ^ bytes.length := by
  induction bytes with
  | nil => simp [natOfLittleEndian]
  | cons b rest ih =>
    have hb := b.toNat_lt
    simp only [natOfLittleEndian, List.length_cons, Nat.pow_succ]
    omega

theorem littleEndian_natOfLittleEndian (bytes : Bytes) :
    littleEndian bytes.length (natOfLittleEndian bytes) = bytes := by
  induction bytes with
  | nil => rfl
  | cons b rest ih =>
    have hb := b.toNat_lt
    have hdiv : (b.toNat + 256 * natOfLittleEndian rest) / 256 = natOfLittleEndian rest := by omega
    have hmod : UInt8.ofNat (b.toNat + 256 * natOfLittleEndian rest) = b := by
      apply UInt8.toNat_inj.mp
      simp
    simp only [List.length_cons, natOfLittleEndian, littleEndian, hdiv, hmod, ih]

theorem foldl_bigEndian (n : Nat) (bytes : Bytes) :
    bytes.foldl (fun n b => n * 256 + b.toNat) n =
      n * 256 ^ bytes.length + natOfBigEndian bytes := by
  induction bytes generalizing n with
  | nil => simp [natOfBigEndian]
  | cons b bytes ih =>
    rw [natOfBigEndian, List.foldl_cons, List.foldl_cons, ih, ih (0 * 256 + b.toNat), Nat.add_mul,
      Nat.add_mul, Nat.mul_assoc, ← Nat.pow_succ', List.length_cons, Nat.succ_eq_add_one]
    omega

theorem natOfBigEndian_cons (b : UInt8) (bytes : Bytes) :
    natOfBigEndian (b :: bytes) = b.toNat * 256 ^ bytes.length + natOfBigEndian bytes := by
  rw [natOfBigEndian, List.foldl_cons, foldl_bigEndian, Nat.zero_mul, Nat.zero_add]

end QuoteProver.Bytes
