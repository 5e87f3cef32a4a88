/-!
# Faults

Every way in which an operation refuses its input or finds a signature wrong, named by its cause,
with the text that reports it.
-/

namespace PairingSig

/-- Why bytes are no private key. -/
inductive KeyDefect where
  | length (actual : Nat)
  | outOfRange
  | zero
  deriving DecidableEq, Repr

/-- Why bytes are no public key or no signature. -/
inductive PointDefect where
  | publicKeyLength (actual : Nat)
  | signatureLength (actual : Nat)
  | publicKey
  | signature
  | identityPublicKey
  deriving DecidableEq, Repr

inductive Fault where
  /-- The seed is shorter than a key generation may use. -/
  | shortSeed (length : Nat)
  | privateKey (defect : KeyDefect)
  | point (defect : PointDefect)
  /-- The signature does not belong to the keys and messages. -/
  | signatureRejected
  | noPublicKeys
  | noSignatures
  | countMismatch (publicKeys messages : Nat)
  /-- The message at this place equals an earlier one. -/
  | repeatedMessage (index : Nat)
  deriving DecidableEq, Repr

def KeyDefect.message : KeyDefect → String
  | .length n => "expected 32 bytes, got " ++ toString n
  | .outOfRange => "scalar is not below the group order"
  | .zero => "scalar is zero"

def PointDefect.message : PointDefect → String
  | .publicKeyLength n => "invalid public key length: expected 48 bytes, got " ++ toString n
  | .signatureLength n => "invalid signature length: expected 96 bytes, got " ++ toString n
  | .publicKey => "public key is not a valid G1 point"
  | .signature => "signature is not a valid G2 point"
  | .identityPublicKey => "public key is the identity point"

namespace Fault

def message : Fault → String
  | .shortSeed n => "invalid seed: expected at least 32 bytes, got " ++ toString n
  | .privateKey d => "invalid private key encoding: " ++ d.message
  | .point d => "invalid point encoding: " ++ d.message
  | .signatureRejected => "BLS signature verification failed"
  | .noPublicKeys => "empty public keys provided"
  | .noSignatures => "empty signatures provided"
  | .countMismatch k m =>
    "mismatched number of public keys and messages: " ++ toString k ++ " != " ++ toString m
  | .repeatedMessage i => "message " ++ toString i ++ " repeats an earlier message"

/-- The report of the defect behind a fault, where there is one. -/
def source? : Fault → Option String
  | .privateKey d => some d.message
  | .point d => some d.message
  | _ => none

end Fault

end PairingSig
