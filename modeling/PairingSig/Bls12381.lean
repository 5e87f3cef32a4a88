import PairingSig.Groups
import PairingSig.HashToCurve.Basic
import PairingSig.Pairing.FinalExponentiation

/-!
# The standard groups

The groups in use: points of the two standard curves in homogeneous coordinates, written in
compressed form, with messages hashed to the second curve.
-/

namespace PairingSig

/--
The pairing of the generator with `s` equals the product over `pairs` when the product over all of
them and the mirrored generator with `s` is one.
-/
def pairingsBalance (s : Point Fp2) (pairs : List (Point Fp × Point Fp2)) : Bool :=
  Pairing.productIsOne ((baseGenerator.negate, s) :: pairs)

/-- The groups over which the scheme runs. -/
def standardGroups : PairingGroups where
  G₁ := Point Fp
  G₂ := Point Fp2
  generator := baseGenerator
  smul₁ := fun k P => P.multiple 255 k.val
  isIdentity₁ := Point.isIdentity
  encode₁ := Compressed.encode
  decode₁? := Compressed.decode?
  identity₂ := Point.identity
  add₂ := Point.add
  smul₂ := fun k P => P.multiple 255 k.val
  encode₂ := Compressed.encode
  decode₂? := Compressed.decode?
  hash := HashToCurve.hash
  balances := pairingsBalance

end PairingSig
