import PairingSig.Field.Dodecic
import PairingSig.Proofs.Field.Extension

/-!
# The tower of extensions

The sextic and the dodecic extension adjoin `v` with `v³ = 1 + u` and `w` with `w² = v`. Their
products take the mixed terms from products of sums; written out, these are products of polynomials
with the powers of `v` and of `w` reduced, so both extensions are commutative.

- **The sextic extension**: the coordinates of its products, and its laws as a ring;
- **The dodecic extension**: its products form a commutative monoid, which is all that products of
  pairings need.
-/

namespace PairingSig

/-! ## The sextic extension -/

namespace Fp6

/-- The element `1 + u`, which is the cube of `v`. -/
def vCubed : Fp2 :=
  ⟨1, 1⟩

theorem mulByXi_eq (x : Fp2) : Fp2.mulByXi x = vCubed * x := by
  ext1
  · show x.c0 - x.c1 = 1 * x.c0 - 1 * x.c1
    rw [one_mul, one_mul]
  · show x.c0 + x.c1 = 1 * x.c1 + 1 * x.c0
    rw [one_mul, one_mul, add_comm]

@[simp] theorem c0_zero : (0 : Fp6).c0 = 0 := rfl

@[simp] theorem c1_zero : (0 : Fp6).c1 = 0 := rfl

@[simp] theorem c2_zero : (0 : Fp6).c2 = 0 := rfl

@[simp] theorem c0_one : (1 : Fp6).c0 = 1 := rfl

@[simp] theorem c1_one : (1 : Fp6).c1 = 0 := rfl

@[simp] theorem c2_one : (1 : Fp6).c2 = 0 := rfl

@[simp] theorem c0_add (x y : Fp6) : (x + y).c0 = x.c0 + y.c0 := rfl

@[simp] theorem c1_add (x y : Fp6) : (x + y).c1 = x.c1 + y.c1 := rfl

@[simp] theorem c2_add (x y : Fp6) : (x + y).c2 = x.c2 + y.c2 := rfl

@[simp] theorem c0_mul (x y : Fp6) :
    (x * y).c0 = x.c0 * y.c0 + vCubed * (x.c1 * y.c2 + x.c2 * y.c1) := by
  -- The two mixed terms are computed from one product of sums.
  show x.c0 * y.c0 + Fp2.mulByXi ((x.c1 + x.c2) * (y.c1 + y.c2) - x.c1 * y.c1 - x.c2 * y.c2) = _
  rw [mulByXi_eq]
  ring

@[simp] theorem c1_mul (x y : Fp6) :
    (x * y).c1 = x.c0 * y.c1 + x.c1 * y.c0 + vCubed * (x.c2 * y.c2) := by
  show (x.c0 + x.c1) * (y.c0 + y.c1) - x.c0 * y.c0 - x.c1 * y.c1 + Fp2.mulByXi (x.c2 * y.c2) = _
  rw [mulByXi_eq]
  ring

@[simp] theorem c2_mul (x y : Fp6) : (x * y).c2 = x.c0 * y.c2 + x.c1 * y.c1 + x.c2 * y.c0 := by
  show (x.c0 + x.c2) * (y.c0 + y.c2) - x.c0 * y.c0 - x.c2 * y.c2 + x.c1 * y.c1 = _
  ring

instance : CommRing Fp6 where
  add_assoc x y z := Fp6.ext (add_assoc _ _ _) (add_assoc _ _ _) (add_assoc _ _ _)
  zero_add x := Fp6.ext (zero_add _) (zero_add _) (zero_add _)
  add_zero x := Fp6.ext (add_zero _) (add_zero _) (add_zero _)
  add_comm x y := Fp6.ext (add_comm _ _) (add_comm _ _) (add_comm _ _)
  left_distrib x y z := by
    ext1 <;> simp only [c0_mul, c1_mul, c2_mul, c0_add, c1_add, c2_add] <;> ring
  right_distrib x y z := by
    ext1 <;> simp only [c0_mul, c1_mul, c2_mul, c0_add, c1_add, c2_add] <;> ring
  zero_mul x := by
    ext1 <;> simp only [c0_mul, c1_mul, c2_mul, c0_zero, c1_zero, c2_zero] <;> ring
  mul_zero x := by
    ext1 <;> simp only [c0_mul, c1_mul, c2_mul, c0_zero, c1_zero, c2_zero] <;> ring
  mul_assoc x y z := by ext1 <;> simp only [c0_mul, c1_mul, c2_mul] <;> ring
  one_mul x := by ext1 <;> simp only [c0_mul, c1_mul, c2_mul, c0_one, c1_one, c2_one] <;> ring
  mul_one x := by ext1 <;> simp only [c0_mul, c1_mul, c2_mul, c0_one, c1_one, c2_one] <;> ring
  mul_comm x y := by ext1 <;> simp only [c0_mul, c1_mul, c2_mul] <;> ring
  neg_add_cancel x := Fp6.ext (neg_add_cancel _) (neg_add_cancel _) (neg_add_cancel _)
  sub_eq_add_neg x y := Fp6.ext (sub_eq_add_neg _ _) (sub_eq_add_neg _ _) (sub_eq_add_neg _ _)
  nsmul := nsmulRec
  zsmul := zsmulRec

end Fp6

/-! ## The dodecic extension -/

namespace Fp12

/-- The element `v`, which is the square of `w`. -/
def wSquared : Fp6 :=
  ⟨0, 1, 0⟩

theorem mulByV_eq (x : Fp6) : Fp6.mulByV x = wSquared * x := by
  ext1
  · simp [Fp6.mulByV, wSquared, Fp6.mulByXi_eq]
  · simp [Fp6.mulByV, wSquared]
  · simp [Fp6.mulByV, wSquared]

@[simp] theorem c0_one : (1 : Fp12).c0 = 1 := rfl

@[simp] theorem c1_one : (1 : Fp12).c1 = 0 := rfl

@[simp] theorem c0_mul (x y : Fp12) : (x * y).c0 = x.c0 * y.c0 + wSquared * (x.c1 * y.c1) := by
  show x.c0 * y.c0 + Fp6.mulByV (x.c1 * y.c1) = _
  rw [mulByV_eq]

@[simp] theorem c1_mul (x y : Fp12) : (x * y).c1 = x.c0 * y.c1 + x.c1 * y.c0 := by
  show (x.c0 + x.c1) * (y.c0 + y.c1) - x.c0 * y.c0 - x.c1 * y.c1 = _
  ring

instance : CommMonoid Fp12 where
  mul_assoc x y z := by ext1 <;> simp only [c0_mul, c1_mul] <;> ring
  one_mul x := by ext1 <;> simp only [c0_mul, c1_mul, c0_one, c1_one] <;> ring
  mul_one x := by ext1 <;> simp only [c0_mul, c1_mul, c0_one, c1_one] <;> ring
  mul_comm x y := by ext1 <;> simp only [c0_mul, c1_mul] <;> ring

end Fp12

end PairingSig
