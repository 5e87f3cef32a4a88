import PairingSig.Hash.Hkdf
import PairingSig.Key.Private

/-!
# Key generation

A private key is derived from a seed by key derivation: the material is condensed under a salt,
stretched to 48 bytes and reduced modulo the group order. As long as that gives zero, the salt is
hashed and the derivation repeated.
-/

namespace PairingSig.KeyGeneration

def minimumSeedLength : Nat := 32

def firstSalt : Bytes :=
  Bytes.ofText "BLS-SIG-KEYGEN-SALT-"

/-- How many bytes are reduced to a scalar. -/
def materialLength : Nat := 48

/-- The bytes that a seed gives under a salt. -/
def material (salt seed : Bytes) : Bytes :=
  Hkdf.expand (Hkdf.extract salt (seed ++ [0])) (Bytes.ofNat 2 materialLength) materialLength

/-- The scalar that a seed gives under a salt. -/
def candidate (salt seed : Bytes) : Scalar :=
  .reduce (material salt seed)

/-- The scalars that a generation may yield. -/
structure NonzeroScalar where
  scalar : Scalar
  isZero_scalar : scalar.isZero = false

instance : Nonempty NonzeroScalar :=
  ⟨.ofNat 1, by decide +kernel⟩

/-- What an attempt comes to: its scalar or, if that is zero, the salt of the next attempt. -/
def attempt (scalarOf : Bytes → Scalar) (salt : Bytes) : Id (Bytes ⊕ NonzeroScalar) :=
  let k := scalarOf salt
  if h : k.isZero = true then .inl (Sha256.digest salt)
  else .inr ⟨k, Bool.eq_false_iff.2 h⟩

/--
The first scalar other than zero among those of a salt and the salts that follow it. The number of
attempts has no bound. If every one of them gave zero, the search would not end, and nothing should
be said of its value.
-/
def firstNonzero (scalarOf : Bytes → Scalar) (salt : Bytes) : NonzeroScalar :=
  Id.run (repeatM (attempt scalarOf) salt)

def generate (seed : Bytes) : Except Fault PrivateKey :=
  if seed.length < minimumSeedLength then .error (.shortSeed seed.length)
  else .ok (.ofScalar (firstNonzero (candidate · seed) firstSalt).scalar)

end PairingSig.KeyGeneration
