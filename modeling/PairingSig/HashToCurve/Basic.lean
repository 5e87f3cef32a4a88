import PairingSig.HashToCurve.FieldElements
import PairingSig.HashToCurve.SimplifiedMap
import PairingSig.HashToCurve.Isogeny

/-!
# Messages to points

A message is hashed to two field elements, each is mapped to a point of the signature curve, and a
multiple of the sum of the two lies in the group of signatures.
-/

namespace PairingSig.HashToCurve

/-- The multiple that carries every point of the signature curve into the group in use. -/
def cofactor : Nat :=
  0xbc69f08f2ee75b3584c6a0ea91b352888e2a8e9145ad7689986ff031508ffe1329c2f178731db956d82bf015d1212b02ec0ec69d7477c1ae954cbc06689f6a359894c0adebbf6b4e8020005aaa95551

/-- The point of the signature curve for a field element. -/
def mapToCurve (u : Fp2) : Point Fp2 :=
  let (x, y) := toAuxiliary u
  isogeny x y

def hash (message : Bytes) : Point Fp2 :=
  let (u, v) := fieldElements message
  ((mapToCurve u).add (mapToCurve v)).multiple 636 cofactor

end PairingSig.HashToCurve
