import PairingSig.Curve.Compressed

/-!
# The two curves

Public keys lie on `y² = x³ + 4` over the base field, signatures on `y² = x³ + 4(1 + u)` over the
quadratic extension. In each, the points of order `groupOrder` are the group in use.
-/

namespace PairingSig

instance : CurveConstant Fp := ⟨.ofNat 4⟩

instance : CurveConstant Fp2 := ⟨⟨.ofNat 4, .ofNat 4⟩⟩

/-- The fixed generator of the group of public keys. -/
def baseGenerator : Point Fp :=
  .affine
    (.ofNat 0x17f1d3a73197d7942695638c4fa9ac0fc3688c4f9774b905a14e3a3f171bac586c55e83ff97a1aeffb3af00adb22c6bb)
    (.ofNat 0x08b3f481e3aaa0f1a09e30ed741d8ae4fcf5e095d5d00af600db18cb2c04b3edd03cc744a2888ae40caa232946c5e7e1)

end PairingSig
