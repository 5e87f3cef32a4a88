import PairingSig.Key.Generation
import PairingSig.Signature

/-!
# Key rings

Keys and signatures under names: one name space each for private keys, public keys and signatures.
A step reads named values, and may put a new value under a name; when it does not succeed the ring
stays as it was.
-/

namespace PairingSig

/-- Values under names, a newer value before an older one of the same name. -/
abbrev Named (α : Type) := List (String × α)

/-- Named private keys, public keys and signatures. -/
structure KeyRing (G : PairingGroups) where
  privateKeys : Named PrivateKey
  publicKeys : Named (PublicKey G)
  signatures : Named (Signature G)

namespace KeyRing

variable {G : PairingGroups}

def empty : KeyRing G :=
  ⟨[], [], []⟩

def putPrivateKey (r : KeyRing G) (name : String) (k : PrivateKey) : KeyRing G :=
  { r with privateKeys := (name, k) :: r.privateKeys }

def putPublicKey (r : KeyRing G) (name : String) (k : PublicKey G) : KeyRing G :=
  { r with publicKeys := (name, k) :: r.publicKeys }

def putSignature (r : KeyRing G) (name : String) (s : Signature G) : KeyRing G :=
  { r with signatures := (name, s) :: r.signatures }

/-- One use of a ring. Where a step yields a value, `out` names it. -/
inductive Step where
  | generate (seed : Bytes) (out : String)
  | readPrivateKey (written : Bytes) (out : String)
  | copyPrivateKey (key out : String)
  | writePrivateKey (key : String)
  | describePrivateKey (key : String)
  | wipe (key : String)
  | derivePublicKey (key out : String)
  | sign (key : String) (message : Bytes) (out : String)
  | readPublicKey (written : Bytes) (out : String)
  | readSignature (written : Bytes) (out : String)
  | writePublicKey (key : String)
  | writeSignature (signature : String)
  | verify (key : String) (message : Bytes) (signature : String)
  | samePublicKey (first second : String)
  | sameSignature (first second : String)
  | aggregate (signatures : List String) (out : String)
  deriving DecidableEq, Repr

inductive Answer where
  /-- A value that the step reads is not there. -/
  | unset
  | refused (fault : Fault)
  | written (bytes : Bytes)
  | text (text : String)
  | verdict (holds : Bool)
  deriving DecidableEq, Repr

/-! ## Steps -/

/-- Puts a private key that was obtained under a name. -/
def keepPrivateKey (r : KeyRing G) (out : String) :
    Except Fault PrivateKey → Answer × KeyRing G
  | .error f => (.refused f, r)
  | .ok k => (.written k.encode, r.putPrivateKey out k)

/-- Puts a public key that was obtained under a name. -/
def keepPublicKey (r : KeyRing G) (out : String) :
    Except Fault (PublicKey G) → Answer × KeyRing G
  | .error f => (.refused f, r)
  | .ok k => (.written k.encode, r.putPublicKey out k)

/-- Puts a signature that was obtained under a name. -/
def keepSignature (r : KeyRing G) (out : String) :
    Except Fault (Signature G) → Answer × KeyRing G
  | .error f => (.refused f, r)
  | .ok s => (.written s.encode, r.putSignature out s)

def step (r : KeyRing G) : Step → Answer × KeyRing G
  | .generate seed out => r.keepPrivateKey out (KeyGeneration.generate seed)
  | .readPrivateKey written out => r.keepPrivateKey out (PrivateKey.decode written)
  | .copyPrivateKey key out =>
    match r.privateKeys.lookup key with
    | none => (.unset, r)
    | some k => r.keepPrivateKey out (.ok k)
  | .writePrivateKey key =>
    match r.privateKeys.lookup key with
    | none => (.unset, r)
    | some k => (.written k.encode, r)
  | .describePrivateKey key =>
    match r.privateKeys.lookup key with
    | none => (.unset, r)
    | some k => (.text k.description, r)
  | .wipe key =>
    match r.privateKeys.lookup key with
    | none => (.unset, r)
    -- Copies under other names stay as they are.
    | some _ => r.keepPrivateKey key (.ok .wiped)
  | .derivePublicKey key out =>
    match r.privateKeys.lookup key with
    | none => (.unset, r)
    | some k => r.keepPublicKey out (.ok (k.publicKey G))
  | .sign key message out =>
    match r.privateKeys.lookup key with
    | none => (.unset, r)
    | some k => r.keepSignature out (.ok (k.sign G message))
  | .readPublicKey written out => r.keepPublicKey out (PublicKey.decode written)
  | .readSignature written out => r.keepSignature out (Signature.decode written)
  | .writePublicKey key =>
    match r.publicKeys.lookup key with
    | none => (.unset, r)
    | some k => (.written k.encode, r)
  | .writeSignature signature =>
    match r.signatures.lookup signature with
    | none => (.unset, r)
    | some s => (.written s.encode, r)
  | .verify key message signature =>
    match r.publicKeys.lookup key, r.signatures.lookup signature with
    | some k, some s => (.verdict (k.verifies message s), r)
    | _, _ => (.unset, r)
  | .samePublicKey first second =>
    match r.publicKeys.lookup first, r.publicKeys.lookup second with
    | some a, some b => (.verdict (a == b), r)
    | _, _ => (.unset, r)
  | .sameSignature first second =>
    match r.signatures.lookup first, r.signatures.lookup second with
    | some a, some b => (.verdict (a == b), r)
    | _, _ => (.unset, r)
  | .aggregate signatures out =>
    match signatures.mapM fun name => r.signatures.lookup name with
    -- One name without a signature leaves nothing to add up.
    | none => (.unset, r)
    | some sigs => r.keepSignature out (Signature.aggregate sigs)

def run (r : KeyRing G) : List Step → List Answer × KeyRing G
  | [] => ([], r)
  | s :: rest =>
    let (a, r') := r.step s
    let (answers, r'') := r'.run rest
    (a :: answers, r'')

end KeyRing

end PairingSig
