import PairingSig.Bytes
import PairingSig.GroupOrder

/-!
# Groups with a pairing

What the signature scheme needs to know of its two groups: how to add and to multiply, how points
are written and read, how a message becomes a point, and the test of a product of pairings. A point
may have several representatives; only what is written for it identifies it.

The scheme is stated over any such pair of groups; `standardGroups` is the pair in use.
-/

namespace PairingSig

/-- The length of a written public key. -/
def publicKeyLength : Nat := 48

/-- The length of a written signature. -/
def signatureLength : Nat := 96

/-- Two groups of order `groupOrder` with a pairing, given by their operations. -/
structure PairingGroups where
  /-- Representatives of the points of the group of public keys. -/
  G₁ : Type
  /-- Representatives of the points of the group of signatures. -/
  G₂ : Type
  /-- The fixed generator of the first group. -/
  generator : G₁
  /-- Multiples of a point of the first group. -/
  smul₁ : Scalar → G₁ → G₁
  /-- Whether a representative stands for the identity of the first group. -/
  isIdentity₁ : G₁ → Bool
  /-- The written form of a point of the first group. -/
  encode₁ : G₁ → Bytes
  /-- Reads a written form of `publicKeyLength` bytes. -/
  decode₁? : Bytes → Option G₁
  /-- The identity of the second group. -/
  identity₂ : G₂
  /-- Sums in the second group. -/
  add₂ : G₂ → G₂ → G₂
  /-- Multiples of a point of the second group. -/
  smul₂ : Scalar → G₂ → G₂
  /-- The written form of a point of the second group. -/
  encode₂ : G₂ → Bytes
  /-- Reads a written form of `signatureLength` bytes. -/
  decode₂? : Bytes → Option G₂
  /-- The point of a message. -/
  hash : Bytes → G₂
  /--
  Whether the pairing of the generator with a point equals the product of the pairings of the
  listed pairs.
  -/
  balances : G₂ → List (G₁ × G₂) → Bool

end PairingSig
