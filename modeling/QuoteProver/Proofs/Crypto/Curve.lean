import Mathlib.AlgebraicGeometry.EllipticCurve.Affine.Point
import Mathlib.FieldTheory.Finite.Basic
import Mathlib.GroupTheory.OrderOfElement
import QuoteProver.Proofs.Crypto.Primes

/-!
# The group of secp256k1

The points of the curve form the group of an elliptic curve over the residues modulo `fieldPrime`.
Weighted coordinates `x`, `y` and `z` stand for the point `(x / z², y / z³)` (`Stands`), and each step
of the arithmetic stands for the step of the group.  So `ofScalar?` gives the coordinates of a multiple
of the generator (`ofScalar?_eq`), and those by positive numbers below the order have some
(`exists_ofScalar?`).
-/

namespace QuoteProver.Crypto.Secp256k1

open WeierstrassCurve

/-! ## Residues -/

/-- The field of the curve. -/
abbrev Residue := ZMod fieldPrime

instance : Fact fieldPrime.Prime := ⟨prime_fieldPrime⟩

theorem cast_mul (a b : Nat) : (mul a b : Residue) = a * b := by
  rw [mul, ZMod.natCast_mod, Nat.cast_mul]

theorem cast_add (a b : Nat) : (add a b : Residue) = a + b := by
  rw [add, ZMod.natCast_mod, Nat.cast_add]

theorem cast_sub (a b : Nat) : (sub a b : Residue) = a - b := by
  have below : b % fieldPrime ≤ fieldPrime := (Nat.mod_lt b prime_fieldPrime.pos).le
  rw [sub, ZMod.natCast_mod, Nat.cast_add, Nat.cast_sub below, ZMod.natCast_self, ZMod.natCast_mod,
    zero_sub, sub_eq_add_neg]

theorem mul_lt (a b : Nat) : mul a b < fieldPrime := Nat.mod_lt _ prime_fieldPrime.pos

theorem sub_lt (a b : Nat) : sub a b < fieldPrime := Nat.mod_lt _ prime_fieldPrime.pos

theorem cast_eq_zero_iff {n : Nat} (small : n < fieldPrime) : (n : Residue) = 0 ↔ n = 0 := by
  rw [ZMod.natCast_eq_zero_iff]
  exact ⟨fun divides => Nat.eq_zero_of_dvd_of_lt divides small, fun zero => zero ▸ dvd_zero _⟩

theorem two_ne_zero' : (2 : Residue) ≠ 0 := by
  have cast := (cast_eq_zero_iff (n := 2) (by decide)).not
  exact cast.2 two_ne_zero

theorem cast_inverse (n : Nat) : (inverse n fieldPrime : Residue) = (n : Residue)⁻¹ := by
  rw [inverse, powMod_eq, ZMod.natCast_mod, Nat.cast_pow]
  have two : fieldPrime - 2 + 1 = fieldPrime - 1 := by decide
  by_cases zero : (n : Residue) = 0
  · rw [zero, inv_zero, zero_pow (by decide)]
  · refine eq_inv_of_mul_eq_one_left ?_
    rw [← pow_succ, two, ZMod.pow_card_sub_one_eq_one zero]

/-! ## Points -/

/-- The curve `y² = x³ + 7`. -/
def curve : Affine Residue where
  a₁ := 0
  a₂ := 0
  a₃ := 0
  a₄ := 0
  a₆ := 7

theorem negY_curve (x y : Residue) : curve.negY x y = -y := by
  simp [curve]

theorem addX_curve (x₁ x₂ slope : Residue) : curve.addX x₁ x₂ slope = slope ^ 2 - x₁ - x₂ := by
  simp [curve]

theorem addY_curve (x₁ x₂ y₁ slope : Residue) :
    curve.addY x₁ x₂ y₁ slope = slope * (x₁ - (slope ^ 2 - x₁ - x₂)) - y₁ := by
  rw [Affine.addY, negY_curve, Affine.negAddY, addX_curve]
  ring

theorem slope_tangent {x y : Residue} (steep : y ≠ -y) :
    curve.slope x x y y = 3 * x ^ 2 / (2 * y) := by
  rw [Affine.slope_of_Y_ne rfl (by rwa [negY_curve]), negY_curve]
  simp only [curve]
  ring

/-- The weighted coordinates are those of the point. -/
inductive Stands (w : Weighted) : curve.Point → Prop
  | infinity : w.z = 0 → Stands w 0
  | plain {x y : Residue} {h : curve.Nonsingular x y} : w.y < fieldPrime → w.z < fieldPrime →
      w.z ≠ 0 → (w.x : Residue) = x * w.z ^ 2 → (w.y : Residue) = y * w.z ^ 3 →
      Stands w (.some x y h)

/-- Doubling follows the tangent. -/
theorem Stands.double {w : Weighted} {P : curve.Point} (h : Stands w P) :
    Stands w.double (P + P) := by
  cases h with
  | infinity zero =>
    rw [Weighted.double, if_pos (by simp [zero]), add_zero]
    exact .infinity rfl
  | @plain x y nonsingular hy hz some_z x_eq y_eq =>
    have z_ne : (w.z : Residue) ≠ 0 := (cast_eq_zero_iff hz).not.2 some_z
    -- A point with `y = 0` is its own opposite, and only there the tangent has no slope.
    by_cases flat : w.y = 0
    · have y_zero : y = 0 := by
        rw [flat, Nat.cast_zero, zero_eq_mul] at y_eq
        exact y_eq.resolve_right (pow_ne_zero 3 z_ne)
      rw [Weighted.double, if_pos (by simp [flat]),
        Affine.Point.add_self_of_Y_eq (by rw [negY_curve, y_zero, neg_zero])]
      exact .infinity rfl
    · have wy_ne : (w.y : Residue) ≠ 0 := (cast_eq_zero_iff hy).not.2 flat
      have y_ne : y ≠ 0 := fun zero => wy_ne (by rw [y_eq, zero, zero_mul])
      have steep : y ≠ -y := fun same =>
        mul_ne_zero two_ne_zero' y_ne (by rw [two_mul, ← eq_neg_iff_add_eq_zero, ← same])
      have two := two_ne_zero'
      rw [Weighted.double, if_neg (by simp [flat, some_z]),
        Affine.Point.add_self_of_Y_ne (by rwa [negY_curve])]
      dsimp only
      refine .plain (sub_lt _ _) (mul_lt _ _) ?_ ?_ ?_
      · rw [ne_eq, ← cast_eq_zero_iff (mul_lt _ _), cast_mul, cast_mul]
        exact mul_ne_zero two (mul_ne_zero wy_ne z_ne)
      · simp only [cast_mul, cast_sub, cast_add, x_eq, y_eq, Nat.cast_ofNat, addX_curve,
          slope_tangent steep]
        field_simp
        ring
      · simp only [cast_mul, cast_sub, cast_add, x_eq, y_eq, Nat.cast_ofNat, addY_curve,
          slope_tangent steep]
        field_simp
        ring

/-- A number that stands for a multiple of a difference tells whether there is one. -/
theorem eq_zero_iff_of_cast {n : Nat} {a b c : Residue} (small : n < fieldPrime)
    (h : (n : Residue) = (b - a) * c) (hc : c ≠ 0) : n = 0 ↔ a = b := by
  rw [← cast_eq_zero_iff small, h, mul_eq_zero, or_iff_left hc, sub_eq_zero, eq_comm]

/-- Adding follows the secant. -/
theorem Stands.plus {v w : Weighted} {P Q : curve.Point} (h : Stands v P) (h' : Stands w Q) :
    Stands (v.plus w) (P + Q) := by
  cases h with
  | infinity zero =>
    rw [Weighted.plus, if_pos zero, zero_add]
    exact h'
  | @plain x₁ y₁ nonsingular hy hz some_z x_eq y_eq =>
    cases h' with
    | infinity zero =>
      rw [Weighted.plus, if_neg some_z, if_pos zero, add_zero]
      exact .plain hy hz some_z x_eq y_eq
    | @plain x₂ y₂ nonsingular' hy' hz' some_z' x_eq' y_eq' =>
      have z_ne : (v.z : Residue) ≠ 0 := (cast_eq_zero_iff hz).not.2 some_z
      have z_ne' : (w.z : Residue) ≠ 0 := (cast_eq_zero_iff hz').not.2 some_z'
      have zz_ne : (v.z * w.z : Residue) ≠ 0 := mul_ne_zero z_ne z_ne'
      have run : (sub (mul w.x (mul v.z v.z)) (mul v.x (mul w.z w.z)) : Residue) =
          (x₂ - x₁) * (v.z * w.z) ^ 2 := by
        simp only [cast_mul, cast_sub, x_eq, x_eq']
        ring
      have rise : (sub (mul w.y (mul v.z (mul v.z v.z))) (mul v.y (mul w.z (mul w.z w.z))) : Residue) =
          (y₂ - y₁) * (v.z * w.z) ^ 3 := by
        simp only [cast_mul, cast_sub, y_eq, y_eq']
        ring
      have sameX_iff := eq_zero_iff_of_cast (sub_lt _ _) run (pow_ne_zero 2 zz_ne)
      have sameY_iff := eq_zero_iff_of_cast (sub_lt _ _) rise (pow_ne_zero 3 zz_ne)
      rw [Weighted.plus, if_neg some_z, if_neg some_z']
      dsimp only
      -- The same point, opposite points, or a line with a slope between points that differ in `x`.
      split_ifs with sameX sameY
      · obtain rfl := sameX_iff.1 sameX
        obtain rfl := sameY_iff.1 sameY
        exact (Stands.plain hy hz some_z x_eq y_eq).double
      · have opposite : y₁ = curve.negY x₂ y₂ :=
          (Affine.Y_eq_of_X_eq nonsingular.1 nonsingular'.1 (sameX_iff.1 sameX)).resolve_left
            (mt sameY_iff.2 sameY)
        rw [Affine.Point.add_of_Y_eq (sameX_iff.1 sameX) opposite]
        exact .infinity rfl
      · have apart : x₁ ≠ x₂ := mt sameX_iff.2 sameX
        have apart' : x₁ - x₂ ≠ 0 := sub_ne_zero.2 apart
        have apart'' : x₂ - x₁ ≠ 0 := sub_ne_zero.2 apart.symm
        rw [Affine.Point.add_of_X_ne apart]
        refine .plain (sub_lt _ _) (mul_lt _ _) ?_ ?_ ?_
        · rw [ne_eq, ← cast_eq_zero_iff (mul_lt _ _), cast_mul, cast_mul, run]
          exact mul_ne_zero (mul_ne_zero apart'' (pow_ne_zero 2 zz_ne)) zz_ne
        · simp only [cast_mul, cast_sub, x_eq, y_eq, x_eq', y_eq', Nat.cast_ofNat, addX_curve,
            Affine.slope_of_X_ne apart]
          field_simp
          ring
        · simp only [cast_mul, cast_sub, x_eq, y_eq, x_eq', y_eq', Nat.cast_ofNat, addY_curve,
            Affine.slope_of_X_ne apart]
          field_simp
          ring

theorem Stands.times {w : Weighted} {P : curve.Point} (h : Stands w P) (n : Nat) :
    Stands (w.times n) (n • P) := by
  fun_induction Weighted.times n w with
  | case1 =>
    rw [zero_nsmul]
    exact .infinity rfl
  | case2 n _ even odd ih =>
    have split : n = n / 2 + n / 2 + 1 := by omega
    rw [split, add_nsmul, add_nsmul, one_nsmul]
    exact ih.double.plus h
  | case3 n _ even _ ih =>
    have split : n = n / 2 + n / 2 := by omega
    rw [split, add_nsmul]
    exact ih.double

/-! ## Plain coordinates -/

/-- The plain coordinates of a point, unless it is at infinity. -/
def plain? : curve.Point → Option Point
  | .zero => none
  | .some x y _ => some ⟨x.val, y.val⟩

theorem plain?_eq_none_iff {P : curve.Point} : plain? P = none ↔ P = 0 := by
  cases P with
  | zero => exact iff_of_true rfl rfl
  | some x y h => exact iff_of_false nofun (Affine.Point.some_ne_zero h)

theorem eq_val_of_cast_eq {n : Nat} {a : Residue} (small : n < fieldPrime) (h : (n : Residue) = a) :
    n = a.val := by
  rw [← h, ZMod.val_natCast, Nat.mod_eq_of_lt small]

theorem Stands.toPoint? {w : Weighted} {P : curve.Point} (h : Stands w P) :
    w.toPoint? = plain? P := by
  cases h with
  | infinity zero => exact if_pos zero
  | @plain x y nonsingular hy hz some_z x_eq y_eq =>
    have z_ne : (w.z : Residue) ≠ 0 := (cast_eq_zero_iff hz).not.2 some_z
    rw [Weighted.toPoint?, if_neg some_z, plain?]
    dsimp only
    congr 2
    · refine eq_val_of_cast_eq (mul_lt _ _) ?_
      simp only [cast_mul, cast_inverse, x_eq]
      field_simp
    · refine eq_val_of_cast_eq (mul_lt _ _) ?_
      simp only [cast_mul, cast_inverse, y_eq]
      field_simp

/-! ## The generator -/

theorem discriminant_ne_zero : curve.Δ ≠ 0 := by
  have value : curve.Δ = -(21168 : Nat) := by
    simp only [WeierstrassCurve.Δ, WeierstrassCurve.b₂, WeierstrassCurve.b₄, WeierstrassCurve.b₆,
      WeierstrassCurve.b₈, curve]
    norm_num
  rw [value, neg_ne_zero, ne_eq, cast_eq_zero_iff (by decide)]
  decide

theorem nonsingular_generator :
    curve.Nonsingular (generator.x : Residue) (generator.y : Residue) := by
  have onCurve : mul generator.y generator.y = Point.cubic generator.x := by decide +kernel
  have equation := congrArg (Nat.cast : Nat → Residue) onCurve
  simp only [Point.cubic, cast_mul, cast_add, Nat.cast_ofNat] at equation
  refine (Affine.equation_iff_nonsingular_of_Δ_ne_zero discriminant_ne_zero).1 ?_
  rw [Affine.equation_iff]
  simp only [curve]
  linear_combination equation

/-- The generator. -/
def base : curve.Point := .some generator.x generator.y nonsingular_generator

theorem stands_generator : Stands (.ofPoint generator) base :=
  .plain (by decide) (by decide) one_ne_zero (by simp [Weighted.ofPoint]) (by simp [Weighted.ofPoint])

theorem ofScalar?_eq (n : Nat) : Point.ofScalar? n = plain? (n • base) :=
  (stands_generator.times n).toPoint?

/-- The multiple by the order is evaluated in weighted coordinates. -/
theorem order_nsmul_base : order • base = 0 := by
  have none_there : Point.ofScalar? order = none := by decide +kernel
  rwa [ofScalar?_eq, plain?_eq_none_iff] at none_there

theorem addOrderOf_base : addOrderOf base = order :=
  have : Fact order.Prime := ⟨prime_order⟩
  addOrderOf_eq_prime order_nsmul_base (Affine.Point.some_ne_zero _)

/-- The multiples of the generator by positive numbers below the order are points with coordinates. -/
theorem exists_ofScalar? {n : Nat} (positive : 0 < n) (below : n < order) :
    ∃ p, Point.ofScalar? n = some p := by
  rw [← Option.ne_none_iff_exists', ofScalar?_eq, ne_eq, plain?_eq_none_iff,
    ← addOrderOf_dvd_iff_nsmul_eq_zero, addOrderOf_base]
  exact Nat.not_dvd_of_pos_of_lt positive below

end QuoteProver.Crypto.Secp256k1
