import PairingSig.Key.Public

/-!
# Signatures

A signature is a point of the second group, held by a representative; two signatures are equal when
they are written alike. A private key signs a message with its multiple of the message's point, and
signatures add up. `Signature.holdsFor` is the test that a signature belongs to keys and messages.
-/

namespace PairingSig

/-- A signature over a pair of groups. -/
structure Signature (G : PairingGroups) where
  point : G.G₂

namespace Signature

variable {G : PairingGroups}

def encode (s : Signature G) : Bytes :=
  G.encode₂ s.point

/-- Reads a signature: any point of the group. -/
def decode (bs : Bytes) : Except Fault (Signature G) :=
  if bs.length = signatureLength then
    match G.decode₂? bs with
    | none => .error (.point .signature)
    | some P => .ok ⟨P⟩
  else .error (.point (.signatureLength bs.length))

/-- Whether two signatures are written alike. -/
instance : BEq (Signature G) := ⟨fun a b => a.encode == b.encode⟩

def sum (sigs : List (Signature G)) : Signature G :=
  ⟨sigs.foldl (fun P s => G.add₂ P s.point) G.identity₂⟩

/-- The sum of at least one signature. -/
def aggregate (sigs : List (Signature G)) : Except Fault (Signature G) :=
  if sigs.isEmpty then .error .noSignatures else .ok (sum sigs)

/-- Whether no two messages have the same point. -/
def hashesDiffer (G : PairingGroups) (points : List G.G₂) : Bool :=
  decide (points.map G.encode₂).Nodup

/--
Whether a signature is the sum of the signatures that the keys give to the messages, one message
for each key. It never is when there is no key, when the counts differ, when a key is the identity,
or when two messages have the same point.
-/
def holdsFor (s : Signature G) (messages : List Bytes) (keys : List (PublicKey G)) : Bool :=
  -- Points are computed only once the keys have passed.
  if keys.isEmpty || keys.length != messages.length || keys.any PublicKey.isIdentity then false
  else
    let points := messages.map G.hash
    hashesDiffer G points && G.balances s.point ((keys.map PublicKey.point).zip points)

end Signature

def PrivateKey.sign (G : PairingGroups) (k : PrivateKey) (message : Bytes) : Signature G :=
  ⟨G.smul₂ k.scalar (G.hash message)⟩

/-- Whether a signature of a message is that of a key. -/
def PublicKey.verifies {G : PairingGroups} (k : PublicKey G) (message : Bytes) (s : Signature G) :
    Bool :=
  s.holdsFor [message] [k]

end PairingSig
