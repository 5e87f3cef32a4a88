import PairingSig.Curve.Standard

/-!
# The auxiliary curve to the signature curve

A homomorphism of degree three carries the auxiliary curve to the curve of signatures. Its
coordinates are quotients of polynomials, listed here with the highest coefficient first.
-/

namespace PairingSig.HashToCurve

/-- The value of a polynomial given by its coefficients, highest first. -/
def evaluate (coefficients : List Fp2) (x : Fp2) : Fp2 :=
  coefficients.foldl (fun acc c => acc * x + c) 0

def xNumerator : List Fp2 :=
  [⟨.ofNat 0x171d6541fa38ccfaed6dea691f5fb614cb14b4e7f4e810aa22d6108f142b85757098e38d0f671c7188e2aaaaaaaa5ed1,
    0⟩,
   ⟨.ofNat 0x11560bf17baa99bc32126fced787c88f984f87adf7ae0c7f9a208c6b4f20a4181472aaa9cb8d555526a9ffffffffc71e,
    .ofNat 0x08ab05f8bdd54cde190937e76bc3e447cc27c3d6fbd7063fcd104635a790520c0a395554e5c6aaaa9354ffffffffe38d⟩,
   ⟨0,
    .ofNat 0x11560bf17baa99bc32126fced787c88f984f87adf7ae0c7f9a208c6b4f20a4181472aaa9cb8d555526a9ffffffffc71a⟩,
   ⟨.ofNat 0x05c759507e8e333ebb5b7a9a47d7ed8532c52d39fd3a042a88b58423c50ae15d5c2638e343d9c71c6238aaaaaaaa97d6,
    .ofNat 0x05c759507e8e333ebb5b7a9a47d7ed8532c52d39fd3a042a88b58423c50ae15d5c2638e343d9c71c6238aaaaaaaa97d6⟩]

def xDenominator : List Fp2 :=
  [⟨1, 0⟩, ⟨.ofNat 12, -.ofNat 12⟩, ⟨0, -.ofNat 72⟩]

def yNumerator : List Fp2 :=
  [⟨.ofNat 0x124c9ad43b6cf79bfbf7043de3811ad0761b0f37a1e26286b0e977c69aa274524e79097a56dc4bd9e1b371c71c718b10,
    0⟩,
   ⟨.ofNat 0x11560bf17baa99bc32126fced787c88f984f87adf7ae0c7f9a208c6b4f20a4181472aaa9cb8d555526a9ffffffffc71c,
    .ofNat 0x08ab05f8bdd54cde190937e76bc3e447cc27c3d6fbd7063fcd104635a790520c0a395554e5c6aaaa9354ffffffffe38f⟩,
   ⟨0,
    .ofNat 0x05c759507e8e333ebb5b7a9a47d7ed8532c52d39fd3a042a88b58423c50ae15d5c2638e343d9c71c6238aaaaaaaa97be⟩,
   ⟨.ofNat 0x1530477c7ab4113b59a4c18b076d11930f7da5d4a07f649bf54439d87d27e500fc8c25ebf8c92f6812cfc71c71c6d706,
    .ofNat 0x1530477c7ab4113b59a4c18b076d11930f7da5d4a07f649bf54439d87d27e500fc8c25ebf8c92f6812cfc71c71c6d706⟩]

def yDenominator : List Fp2 :=
  [⟨1, 0⟩, ⟨.ofNat 18, -.ofNat 18⟩, ⟨0, -.ofNat 216⟩, ⟨-.ofNat 432, -.ofNat 432⟩]

/-- The image of an affine point of the auxiliary curve. -/
def isogeny (x y : Fp2) : Point Fp2 :=
  let dx := evaluate xDenominator x
  let dy := evaluate yDenominator x
  let z := dx * dy
  -- The points at which a denominator vanishes are those that the homomorphism sends to zero.
  if z = 0 then .identity
  else ⟨evaluate xNumerator x * dy, y * evaluate yNumerator x * dx, z⟩

end PairingSig.HashToCurve
