import PairingSig.Field.Quadratic

/-!
# The sextic extension

Elements `c0 + c1·v + c2·v²` with `v³ = 1 + u`, over the quadratic extension: the middle step of
the tower in which pairings take their values.
-/

namespace PairingSig

/-- The element `c0 + c1·v + c2·v²`. -/
@[ext] structure Fp6 where
  c0 : Fp2
  c1 : Fp2
  c2 : Fp2
  deriving DecidableEq, Repr

namespace Fp6

instance : Zero Fp6 := ⟨⟨0, 0, 0⟩⟩

instance : One Fp6 := ⟨⟨1, 0, 0⟩⟩

instance : Add Fp6 := ⟨fun x y => ⟨x.c0 + y.c0, x.c1 + y.c1, x.c2 + y.c2⟩⟩

instance : Sub Fp6 := ⟨fun x y => ⟨x.c0 - y.c0, x.c1 - y.c1, x.c2 - y.c2⟩⟩

instance : Neg Fp6 := ⟨fun x => ⟨-x.c0, -x.c1, -x.c2⟩⟩

/-- The product; the mixed terms come from products of sums. -/
def mul (x y : Fp6) : Fp6 :=
  let t0 := x.c0 * y.c0
  let t1 := x.c1 * y.c1
  let t2 := x.c2 * y.c2
  ⟨t0 + Fp2.mulByXi ((x.c1 + x.c2) * (y.c1 + y.c2) - t1 - t2),
   (x.c0 + x.c1) * (y.c0 + y.c1) - t0 - t1 + Fp2.mulByXi t2,
   (x.c0 + x.c2) * (y.c0 + y.c2) - t0 - t2 + t1⟩

instance : Mul Fp6 := ⟨mul⟩

def mulByV (x : Fp6) : Fp6 :=
  ⟨Fp2.mulByXi x.c2, x.c0, x.c1⟩

/-- The inverse of a non-zero element; zero stays zero. -/
def inverse (x : Fp6) : Fp6 :=
  let a := x.c0 * x.c0 - Fp2.mulByXi (x.c1 * x.c2)
  let b := Fp2.mulByXi (x.c2 * x.c2) - x.c0 * x.c1
  let c := x.c1 * x.c1 - x.c0 * x.c2
  let d := (x.c0 * a + Fp2.mulByXi (x.c2 * b + x.c1 * c))⁻¹
  ⟨a * d, b * d, c * d⟩

instance : Inv Fp6 := ⟨inverse⟩

end Fp6

end PairingSig
