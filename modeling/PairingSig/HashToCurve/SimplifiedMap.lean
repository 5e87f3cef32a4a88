import PairingSig.Field.Quadratic

/-!
# Field elements to an auxiliary curve

Every field element is sent to a point of `y² = x³ + A·x + B`, a curve with both coefficients
non-zero. Of two candidates for `x`, one always makes the right-hand side a square, and the first
such one is taken; `y` gets the sign of the field element.
-/

namespace PairingSig.HashToCurve

/-- The linear coefficient of the auxiliary curve. -/
def auxiliaryA : Fp2 :=
  ⟨0, .ofNat 240⟩

/-- The constant coefficient of the auxiliary curve. -/
def auxiliaryB : Fp2 :=
  ⟨.ofNat 1012, .ofNat 1012⟩

/-- A fixed element that is not a square. -/
def nonSquare : Fp2 :=
  -⟨.ofNat 2, 1⟩

/-- The right-hand side of the auxiliary curve. -/
def auxiliaryRhs (x : Fp2) : Fp2 :=
  (x * x + auxiliaryA) * x + auxiliaryB

/-- The root with the sign of `u`. -/
def withSignOf (u y : Fp2) : Fp2 :=
  if u.isOdd = y.isOdd then y else -y

/-- The first candidate for `x`, where `t` is the non-square times the square of the element. -/
def firstCandidate (t : Fp2) : Fp2 :=
  -- In the exceptional case the candidate is a fixed one whose right-hand side is a square.
  let d := t * t + t
  if d = 0 then auxiliaryB * (nonSquare * auxiliaryA)⁻¹
  else -auxiliaryB * auxiliaryA⁻¹ * (1 + d⁻¹)

/-- The point of the auxiliary curve for a field element, in affine coordinates. -/
def toAuxiliary (u : Fp2) : Fp2 × Fp2 :=
  let t := nonSquare * (u * u)
  let x₁ := firstCandidate t
  match Fp2.sqrt? (auxiliaryRhs x₁) with
  | some y => (x₁, withSignOf u y)
  | none =>
    let x₂ := t * x₁
    -- One of the two right-hand sides is a square, so the default is never taken.
    (x₂, withSignOf u ((Fp2.sqrt? (auxiliaryRhs x₂)).getD 0))

end PairingSig.HashToCurve
