import PairingSig.Key.Generation
import PairingSig.Outcome
import PairingSig.Signature

/-!
# The signature scheme on bytes

The operations of the scheme on written keys and signatures. Each reads all its inputs before it
computes, and reports how it went.

Layers:
- `generateKey`, `derivePublicKey`, `sign`: what a holder of a key does;
- `verify`, `aggregate`, `aggregateVerify`: what anybody does;
- `verifyDistinct`: the checks on keys and messages that aggregate verification shares with the
  caching verifier.
-/

namespace PairingSig

namespace Scheme

variable (G : PairingGroups)

/-- Derives a written private key from a seed. -/
def generateKey (seed : Bytes) : Outcome Bytes :=
  match KeyGeneration.generate seed with
  | .error f => .fail f [.keyGenerationRejected f]
  | .ok k => .ok k.encode [.keyGenerated seed.length]

/-- The written public key of a written private key. -/
def derivePublicKey (key : Bytes) : Outcome Bytes :=
  match PrivateKey.decode key with
  | .error f => .fail f [.derivationRejected f]
  | .ok k => .ok (k.publicKey G).encode []

def sign (key message : Bytes) : Outcome Bytes :=
  match PrivateKey.decode key with
  | .error f => .fail f [.signingRejected f]
  | .ok k => .ok (k.sign G message).encode [.messageSigned message.length]

def verify (publicKey message signature : Bytes) : Outcome Unit :=
  match (PublicKey.decode publicKey : Except Fault (PublicKey G)) with
  | .error f => .fail f []
  | .ok k =>
    match Signature.decode signature with
    | .error f => .fail f []
    | .ok s =>
      if k.verifies message s then .ok () []
      else .fail .signatureRejected [.verificationFailed message.length]

def aggregate (signatures : List Bytes) : Outcome Bytes :=
  match (signatures.mapM Signature.decode : Except Fault (List (Signature G))) with
  | .error f => .fail f []
  | .ok sigs =>
    match Signature.aggregate sigs with
    | .error f => .fail f []
    | .ok s => .ok s.encode [.signaturesAggregated sigs.length]

/-! ## Verification of aggregates -/

/-- The place of the first message that is among `seen` or equals an earlier one. -/
def firstRepeatFrom (place : Nat) (seen : List Bytes) : List Bytes → Option Nat
  | [] => none
  | m :: rest =>
    if m ∈ seen then some place else firstRepeatFrom (place + 1) (m :: seen) rest

/-- The place of the first message that equals an earlier one. -/
def firstRepeat? (messages : List Bytes) : Option Nat :=
  firstRepeatFrom 0 [] messages

variable {G}

/-- Verifies a sum of signatures, where each key signed the message at its place. -/
def verifyDistinct (keys : List (PublicKey G)) (messages : List Bytes) (s : Signature G) :
    Outcome Unit :=
  if keys.isEmpty then .fail .noPublicKeys []
  else if keys.length ≠ messages.length then
    .fail (.countMismatch keys.length messages.length) []
  else
    match firstRepeat? messages with
    | some i => .fail (.repeatedMessage i) []
    | none =>
      -- Equal messages never reach the test of the pairings.
      if s.holdsFor messages keys then .ok () []
      else .fail .signatureRejected [.aggregateVerificationFailed keys.length]

variable (G)

/-- Verifies a written sum of signatures against written keys. -/
def aggregateVerify (publicKeys messages : List Bytes) (signature : Bytes) : Outcome Unit :=
  match (publicKeys.mapM PublicKey.decode : Except Fault (List (PublicKey G))) with
  | .error f => .fail f []
  | .ok keys =>
    -- The signature is read even if there is no key to verify it with.
    match Signature.decode signature with
    | .error f => .fail f []
    | .ok s => verifyDistinct keys messages s

end Scheme

end PairingSig
