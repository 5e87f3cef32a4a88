import PairingSig.Binary

/-!
# Points of a curve

Points of `y² = x³ + b` in homogeneous coordinates: `(x : y : z)` stands for `(x/z, y/z)`, and
`z = 0` for the identity. Sums and doublings are polynomials in the coordinates, the same for all
points of a curve without points of order two, so no operation branches and none looks at how a
point came about: scaling the coordinates of its arguments scales those of its result.
-/

namespace PairingSig

/-- The constant of the curve `y² = x³ + b` over a field. -/
class CurveConstant (F : Type) where
  b : F

/-- A point in homogeneous coordinates. -/
@[ext] structure Point (F : Type) where
  x : F
  y : F
  z : F
  deriving DecidableEq, Repr

namespace Point

variable {F : Type} [Zero F] [One F] [Add F] [Sub F] [Neg F] [Mul F] [CurveConstant F]

def identity : Point F :=
  ⟨0, 1, 0⟩

/-- The point with affine coordinates `x` and `y`. -/
def affine (x y : F) : Point F :=
  ⟨x, y, 1⟩

def isIdentity [DecidableEq F] (P : Point F) : Bool :=
  decide (P.z = 0)

@[inline] def triple (a : F) : F :=
  a + a + a

def negate (P : Point F) : Point F :=
  ⟨P.x, -P.y, P.z⟩

/-- The sum of two points. -/
@[specialize] def add (P Q : Point F) : Point F :=
  -- The constant enters only three times at once, so `zz` and `xz` carry the factor `3b`.
  let xx := triple (P.x * Q.x)
  let yy := P.y * Q.y
  let zz := triple (CurveConstant.b * (P.z * Q.z))
  let xy := P.x * Q.y + Q.x * P.y
  let yz := P.y * Q.z + Q.y * P.z
  let xz := triple (CurveConstant.b * (P.x * Q.z + Q.x * P.z))
  ⟨xy * (yy - zz) - yz * xz, (yy + zz) * (yy - zz) + xx * xz, yz * (yy + zz) + xx * xy⟩

@[specialize] def double (P : Point F) : Point F :=
  -- What `add` gives for two equal points on the curve, up to a common factor.
  let yy := P.y * P.y
  let zz := triple (CurveConstant.b * (P.z * P.z))
  let xy := P.x * P.y
  let yz := P.y * P.z
  let low := yy - triple zz
  let cross := yy * zz
  let eight := fun a : F => let two := a + a; let four := two + two; four + four
  ⟨low * (xy + xy), low * (yy + zz) + eight cross, eight (yy * yz)⟩

/-- The multiple `n·P` of a point, for `n` below `2 ^ width`. -/
@[specialize] def multiple (width n : Nat) (P : Point F) : Point F :=
  Binary.combine identity double (fun Q => add Q P) width n

/-- The affine coordinates of a point that is not the identity. -/
def toAffine [Inv F] (P : Point F) : F × F :=
  let k := P.z⁻¹
  (P.x * k, P.y * k)

end Point

end PairingSig
