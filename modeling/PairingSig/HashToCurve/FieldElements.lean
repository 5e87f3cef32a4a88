import PairingSig.Field.Quadratic
import PairingSig.Hash.ExpandMessage

/-!
# Messages to field elements

Two elements of the quadratic extension are cut from an expanded message of 256 bytes: four numbers
of 64 bytes, each reduced modulo the field order.
-/

namespace PairingSig.HashToCurve

def domainTag : String :=
  "BLS_SIG_BLS12381G2_XMD:SHA-256_SSWU_RO_NUL_"

/-- The residue of the number in the 64 bytes from place `64 * i` on. -/
def coordinateAt (expanded : Bytes) (i : Nat) : Fp :=
  Fp.ofNat (Bytes.toNat ((expanded.drop (64 * i)).take 64))

def fieldElements (message : Bytes) : Fp2 × Fp2 :=
  let expanded := ExpandMessage.expand (Bytes.ofText domainTag) message 256
  (⟨coordinateAt expanded 0, coordinateAt expanded 1⟩,
   ⟨coordinateAt expanded 2, coordinateAt expanded 3⟩)

end PairingSig.HashToCurve
