import PairingSig.Groups
import PairingSig.Key.Private

/-!
# Public keys

A public key is a point of the first group, held by a representative; two keys are equal when they
are written alike. Reading never yields the identity, which only a wiped private key has as its
public key.
-/

namespace PairingSig

/-- A public key over a pair of groups. -/
structure PublicKey (G : PairingGroups) where
  point : G.G₁

namespace PublicKey

variable {G : PairingGroups}

def encode (k : PublicKey G) : Bytes :=
  G.encode₁ k.point

/-- Reads a key: a point of the group other than the identity. -/
def decode (bs : Bytes) : Except Fault (PublicKey G) :=
  if bs.length = publicKeyLength then
    match G.decode₁? bs with
    | none => .error (.point .publicKey)
    | some P => if G.isIdentity₁ P then .error (.point .identityPublicKey) else .ok ⟨P⟩
  else .error (.point (.publicKeyLength bs.length))

/-- Whether two keys are written alike. -/
instance : BEq (PublicKey G) := ⟨fun a b => a.encode == b.encode⟩

/-- Whether a key is the identity, which verifies nothing. -/
def isIdentity (k : PublicKey G) : Bool :=
  G.isIdentity₁ k.point

end PublicKey

def PrivateKey.publicKey (G : PairingGroups) (k : PrivateKey) : PublicKey G :=
  ⟨G.smul₁ k.scalar G.generator⟩

end PairingSig
