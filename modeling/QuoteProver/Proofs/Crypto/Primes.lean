import Mathlib.NumberTheory.LucasPrimality
import Mathlib.Tactic.NormNum.Prime
import QuoteProver.Crypto.Secp256k1

/-!
# The primes of secp256k1

The size of the field and the number of the multiples of the generator are primes
(`prime_fieldPrime`, `prime_order`).  A `Certificate` shows this of a number `p` by the test of Lucas:
some number has the order `p - 1` modulo `p`, as is seen from the prime factors of `p - 1`.  Small
factors are known to be primes, large ones have certificates of their own earlier in the list.
-/

namespace QuoteProver.Crypto.Secp256k1

/-! ## Powers -/

theorem powMod_eq (base exponent modulus : Nat) :
    powMod base exponent modulus = base ^ exponent % modulus := by
  fun_induction powMod base exponent modulus with
  | case1 => rw [pow_zero]
  | case2 exponent _ half square odd ih =>
    have split : exponent = exponent / 2 + exponent / 2 + 1 := by omega
    have squared : square = base ^ (exponent / 2 + exponent / 2) % modulus := by
      rw [pow_add, Nat.mul_mod, ← ih]
    rw [squared, Nat.mod_mul_mod, ← pow_succ, ← split]
  | case3 exponent _ half square even ih =>
    have split : exponent = exponent / 2 + exponent / 2 := by omega
    have squared : square = base ^ (exponent / 2 + exponent / 2) % modulus := by
      rw [pow_add, Nat.mul_mod, ← ih]
    rw [squared, ← split]

theorem powMod_eq_one_iff {p : Nat} (hp : 1 < p) (a n : Nat) :
    powMod a n p = 1 ↔ (a : ZMod p) ^ n = 1 := by
  have cast := ZMod.natCast_eq_natCast_iff' (a ^ n) 1 p
  rw [Nat.cast_pow, Nat.cast_one, Nat.mod_eq_of_lt hp] at cast
  rw [powMod_eq, cast]

/-! ## Certificates -/

/-- What shows that a number is prime: a number of the order `prime - 1`, and the prime factors of
`prime - 1`. -/
structure Certificate where
  prime : Nat
  root : Nat
  factors : List Nat

namespace Certificate

/-- The test of Lucas, for which the factors have to be known. -/
def passes (known : List Nat) (c : Certificate) : Bool :=
  1 < c.prime && c.factors.prod = c.prime - 1 && powMod c.root (c.prime - 1) c.prime = 1 &&
    c.factors.all fun q =>
      q ∈ known && powMod c.root ((c.prime - 1) / q) c.prime ≠ 1

/-- Every number of the list passes the test, where the ones before it are known. -/
def allPass : (known : List Nat) → List Certificate → Bool
  | _, [] => true
  | known, c :: cs => c.passes known && allPass (c.prime :: known) cs

theorem prime_of_passes {known : List Nat} {c : Certificate} (primes : ∀ q ∈ known, q.Prime)
    (h : c.passes known = true) : c.prime.Prime := by
  simp only [passes, Bool.and_eq_true, decide_eq_true_eq, List.all_eq_true] at h
  obtain ⟨⟨⟨large, product⟩, one⟩, each⟩ := h
  refine lucas_primality c.prime (c.root : ZMod c.prime) ((powMod_eq_one_iff large _ _).1 one) ?_
  intro q prime divides
  rw [← product, prime.prime.dvd_prod_iff] at divides
  obtain ⟨r, mem, divides⟩ := divides
  obtain ⟨listed, notOne⟩ := each r mem
  obtain rfl := (Nat.prime_dvd_prime_iff_eq prime (primes r listed)).1 divides
  exact mt (powMod_eq_one_iff large _ _).2 notOne

theorem prime_of_allPass {known : List Nat} {cs : List Certificate} (primes : ∀ q ∈ known, q.Prime)
    (h : allPass known cs = true) : ∀ c ∈ cs, c.prime.Prime := by
  induction cs generalizing known with
  | nil => nofun
  | cons c cs ih =>
    obtain ⟨first, others⟩ := Bool.and_eq_true_iff.1 h
    have prime := prime_of_passes primes first
    exact List.forall_mem_cons.2 ⟨prime, ih (List.forall_mem_cons.2 ⟨prime, primes⟩) others⟩

end Certificate

/-! ## The two primes -/

/-- The small factors. -/
def smallPrimes : List Nat :=
  [2, 3, 5, 7, 11, 17, 29, 31, 41, 53, 59, 97, 109, 149, 293, 461, 631, 797, 971, 1373, 1627, 1871,
    2011, 2621, 2657, 4051, 4423, 5323, 7723, 9349, 13441, 16699, 20113, 24809, 28181, 41201, 85831,
    96557, 120233, 305873]

def fieldCertificates : List Certificate :=
  [⟨13331831, 13, [2, 5, 971, 1373]⟩,
    ⟨173378833005251801, 6, [2, 2, 2, 5, 5, 2621, 24809, 13331831]⟩,
    ⟨22149492674086928081353, 5, [2, 2, 2, 3, 5323, 173378833005251801]⟩,
    ⟨132896956044521568488119, 6, [2, 3, 22149492674086928081353]⟩,
    ⟨1206781, 10, [2, 2, 3, 5, 20113]⟩,
    ⟨7240687, 3, [2, 3, 1206781]⟩,
    ⟨107590001, 3, [2, 2, 2, 2, 5, 5, 5, 5, 7, 29, 53]⟩,
    ⟨255515944373312847190720520512484175977, 3,
      [2, 2, 2, 7, 7, 11, 1627, 2657, 4423, 41201, 96557, 7240687, 107590001]⟩,
    ⟨205115282021455665897114700593932402728804164701536103180137503955397371, 10,
      [2, 3, 5, 29, 29, 31, 7723, 132896956044521568488119, 255515944373312847190720520512484175977]⟩,
    ⟨fieldPrime, 3,
      [2, 3, 7, 13441, 205115282021455665897114700593932402728804164701536103180137503955397371]⟩]

def orderCertificates : List Certificate :=
  [⟨4681609, 23, [2, 2, 2, 3, 97, 2011]⟩,
    ⟨107361793816595537, 3, [2, 2, 2, 2, 16699, 85831, 4681609]⟩,
    ⟨44706919, 6, [2, 3, 797, 9349]⟩,
    ⟨174723607534414371449, 3, [2, 2, 2, 17, 59, 4051, 120233, 44706919]⟩,
    ⟨545358713, 5, [2, 2, 2, 41, 59, 28181]⟩,
    ⟨1627771, 3, [2, 3, 5, 29, 1871]⟩,
    ⟨297159362677, 2, [2, 2, 3, 3, 11, 461, 1627771]⟩,
    ⟨29047611873442575647497758179, 2, [2, 293, 305873, 545358713, 297159362677]⟩,
    ⟨341948486974166000522343609283189, 2, [2, 2, 3, 3, 3, 109, 29047611873442575647497758179]⟩,
    ⟨order, 7, [2, 2, 2, 2, 2, 2, 3, 149, 631, 107361793816595537, 174723607534414371449,
      341948486974166000522343609283189]⟩]

theorem prime_of_mem_smallPrimes : ∀ q ∈ smallPrimes, q.Prime := by
  simp only [smallPrimes, List.forall_mem_cons]
  norm_num

theorem prime_fieldPrime : fieldPrime.Prime := by
  have passed : Certificate.allPass smallPrimes fieldCertificates = true := by decide +kernel
  exact Certificate.prime_of_allPass prime_of_mem_smallPrimes passed _ (List.mem_of_getLast? rfl)

theorem prime_order : order.Prime := by
  have passed : Certificate.allPass smallPrimes orderCertificates = true := by decide +kernel
  exact Certificate.prime_of_allPass prime_of_mem_smallPrimes passed _ (List.mem_of_getLast? rfl)

end QuoteProver.Crypto.Secp256k1
