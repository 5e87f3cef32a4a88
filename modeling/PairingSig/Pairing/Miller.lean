import PairingSig.Curve.Standard
import PairingSig.Field.Dodecic

/-!
# The Miller loop

A pairing evaluates, at a point of the first group, a function whose zeros and poles follow the
multiples of a point of the second group. The loop walks the bits of the curve parameter and
collects the tangents and chords met on the way.

The second group is given on the twist; `line` carries a line of the twist over to the large field,
where `(x, y)` stands at `(x / w², y / w³)`. Lines are taken without divisions: the factors left
out lie in a proper subfield or are powers of `w³`, and the final exponentiation removes both.
-/

namespace PairingSig.Pairing

/-- The size of the curve parameter, which itself is negative. -/
def parameterSize : Nat :=
  0xd201000000010000

/-- The bits of the parameter below its highest one, most significant first. -/
def loopBits : List Bool :=
  ((List.range 63).reverse).map parameterSize.testBit

/--
The line through `T` with slope `rise / run`, evaluated at `P` and freed of denominators.
-/
def line (rise run : Fp2) (T : Point Fp2) (P : Point Fp) : Fp12 :=
  ⟨⟨Fp2.scale P.z (rise * T.x - run * T.y), -(Fp2.scale P.x (rise * T.z)), 0⟩,
   ⟨0, Fp2.scale P.y (run * T.z), 0⟩⟩

/-- The tangent at `T`, evaluated at `P`. -/
def tangent (T : Point Fp2) (P : Point Fp) : Fp12 :=
  let xx := T.x * T.x
  let yz := T.y * T.z
  line (Point.triple xx) (yz + yz) T P

/-- The chord through `T` and `Q`, evaluated at `P`. -/
def chord (T Q : Point Fp2) (P : Point Fp) : Fp12 :=
  line (T.y * Q.z - Q.y * T.z) (T.x * Q.z - Q.x * T.z) Q P

/-- What the loop carries: the multiple reached so far, and the value collected. -/
structure Walk where
  reached : Point Fp2
  value : Fp12

/-- One turn of the loop: a doubling, and an addition of `Q` where the bit is set. -/
def Walk.turn (Q : Point Fp2) (P : Point Fp) (s : Walk) (bit : Bool) : Walk :=
  -- Lines are taken at the point from which the step starts.
  let twice : Walk := ⟨s.reached.double, s.value * s.value * tangent s.reached P⟩
  if bit then ⟨twice.reached.add Q, twice.value * chord twice.reached Q P⟩ else twice

/-- The value of the loop for two points, one if either is the identity. -/
def miller (P : Point Fp) (Q : Point Fp2) : Fp12 :=
  if P.isIdentity || Q.isIdentity then 1
  -- The parameter is negative, so the value collected is inverted, which is to conjugate it.
  else (loopBits.foldl (Walk.turn Q P) ⟨Q, 1⟩).value.conjugate

end PairingSig.Pairing
