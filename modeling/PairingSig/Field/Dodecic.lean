import PairingSig.Field.Sextic

/-!
# The dodecic extension

Elements `c0 + c1·w` with `w² = v`, over the sextic extension. Pairings take their values here.
-/

namespace PairingSig

/-- The element `c0 + c1·w`. -/
@[ext] structure Fp12 where
  c0 : Fp6
  c1 : Fp6
  deriving DecidableEq, Repr

namespace Fp12

instance : Zero Fp12 := ⟨⟨0, 0⟩⟩

instance : One Fp12 := ⟨⟨1, 0⟩⟩

/-- The product; the mixed term comes from the product of sums. -/
def mul (x y : Fp12) : Fp12 :=
  let t0 := x.c0 * y.c0
  let t1 := x.c1 * y.c1
  ⟨t0 + Fp6.mulByV t1, (x.c0 + x.c1) * (y.c0 + y.c1) - t0 - t1⟩

instance : Mul Fp12 := ⟨mul⟩

/-- Replaces `w` by `-w`. -/
def conjugate (x : Fp12) : Fp12 :=
  ⟨x.c0, -x.c1⟩

/-- The inverse of a non-zero element; zero stays zero. -/
def inverse (x : Fp12) : Fp12 :=
  let d := (x.c0 * x.c0 - Fp6.mulByV (x.c1 * x.c1))⁻¹
  ⟨x.c0 * d, -(x.c1 * d)⟩

instance : Inv Fp12 := ⟨inverse⟩

/-! ## The Frobenius map -/

/-- The factor by which the `p`-th power moves `w`: `(1 + u) ^ ((p - 1) / 6)`. -/
def frobeniusFactor : Fp2 :=
  Binary.power 381 (⟨1, 1⟩ : Fp2) ((fieldOrder - 1) / 6)

/-- The first six powers of the Frobenius factor. -/
def frobeniusPowers : Fp6 × Fp6 :=
  let g := frobeniusFactor
  let g2 := g * g
  let g3 := g2 * g
  (⟨1, g2, g2 * g2⟩, ⟨g, g3, g3 * g2⟩)

/-- The `p`-th power, for `p` the order of the base field. -/
def frobenius (x : Fp12) : Fp12 :=
  let (even, odd) := frobeniusPowers
  ⟨⟨x.c0.c0.conjugate, x.c0.c1.conjugate * even.c1, x.c0.c2.conjugate * even.c2⟩,
   ⟨x.c1.c0.conjugate * odd.c0, x.c1.c1.conjugate * odd.c1, x.c1.c2.conjugate * odd.c2⟩⟩

end Fp12

end PairingSig
