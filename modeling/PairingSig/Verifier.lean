import PairingSig.Cache
import PairingSig.Scheme

/-!
# The caching verifier

A verifier remembers the public keys that it has read, so that a key used often is read once. It
gives the answers of the scheme; only its events and its order of checks on an empty list of keys
differ.
-/

namespace PairingSig

/-- A verifier is its cache of public keys. -/
structure Verifier (G : PairingGroups) where
  cache : Cache Bytes (PublicKey G)

namespace Verifier

variable {G : PairingGroups}

def defaultCapacity : Nat := 10000

/-- A verifier that has read nothing. -/
def fresh (capacity : Nat) : Verifier G :=
  ⟨.empty capacity⟩

/-- How many keys are remembered. -/
def cachedKeys (v : Verifier G) : Nat :=
  v.cache.size

/-- The key of a written form, remembered or read; only a key that can be read is remembered. -/
def lookup (v : Verifier G) (written : Bytes) : Outcome (PublicKey G) × Verifier G :=
  match v.cache.use? written with
  | some (k, cache) => (.ok k [], ⟨cache⟩)
  | none =>
    -- A form that cannot be read is missed as well, each time it comes.
    match PublicKey.decode written with
    | .error f => (.fail f [.cacheMiss], v)
    | .ok k => (.ok k [.cacheMiss], ⟨v.cache.insert written k⟩)

/-- The keys of written forms, up to the first that cannot be read. -/
def lookupAll (v : Verifier G) : List Bytes → Outcome (List (PublicKey G)) × Verifier G
  | [] => (.ok [] [], v)
  | written :: rest =>
    match v.lookup written with
    -- The keys before the one at fault stay remembered.
    | (⟨.error f, events⟩, w) => (.fail f events, w)
    | (⟨.ok k, events⟩, w) =>
      let (o, w') := w.lookupAll rest
      ((o.map (k :: ·)).after events, w')

/-! ## Operations -/

def verify (v : Verifier G) (publicKey message signature : Bytes) : Outcome Unit × Verifier G :=
  match v.lookup publicKey with
  | (⟨.error f, events⟩, w) => (.fail f events, w)
  | (⟨.ok k, events⟩, w) =>
    match Signature.decode signature with
    | .error f => (.fail f events, w)
    | .ok s =>
      if k.verifies message s then (.ok () events, w) else (.fail .signatureRejected events, w)

def aggregate (signatures : List Bytes) : Except Fault Bytes :=
  match (signatures.mapM Signature.decode : Except Fault (List (Signature G))) with
  | .error f => .error f
  | .ok sigs => (Signature.aggregate sigs).map Signature.encode

/-- Verifies a written sum of signatures against written keys. -/
def verifyAggregate (v : Verifier G) (publicKeys messages : List Bytes) (signature : Bytes) :
    Outcome Unit × Verifier G :=
  -- Unlike the scheme, a verifier asks for a key before it reads the signature.
  if publicKeys.isEmpty then (.fail .noPublicKeys [], v)
  else
    match v.lookupAll publicKeys with
    | (⟨.error f, events⟩, w) => (.fail f events, w)
    | (⟨.ok keys, events⟩, w) =>
      match Signature.decode signature with
      | .error f => (.fail f events, w)
      | .ok s => ((Scheme.verifyDistinct keys messages s).after events, w)

/-! ## Runs -/

/-- One use of a verifier. -/
inductive Step where
  | verify (publicKey message signature : Bytes)
  | aggregate (signatures : List Bytes)
  | verifyAggregate (publicKeys messages : List Bytes) (signature : Bytes)
  deriving DecidableEq, Repr

/-- What a step answers: that a signature is accepted, or a written sum. -/
inductive Answer where
  | accepted
  | sum (written : Bytes)
  deriving DecidableEq, Repr

def step (v : Verifier G) : Step → Outcome Answer × Verifier G
  | .verify k m s =>
    let (o, w) := v.verify k m s
    (o.map fun _ => .accepted, w)
  | .aggregate sigs => (.silent ((aggregate (G := G) sigs).map .sum), v)
  | .verifyAggregate ks ms s =>
    let (o, w) := v.verifyAggregate ks ms s
    (o.map fun _ => .accepted, w)

/-- What is seen of a step: its outcome, and how many keys are remembered after it. -/
structure Report where
  outcome : Outcome Answer
  cached : Nat

/-- The number of keys that a step looked up and had to read. -/
def Report.misses (r : Report) : Nat :=
  r.outcome.events.count .cacheMiss

def run (v : Verifier G) : List Step → List Report × Verifier G
  | [] => ([], v)
  | s :: rest =>
    let (o, w) := v.step s
    let (reports, w') := w.run rest
    (⟨o, w.cachedKeys⟩ :: reports, w')

end Verifier

end PairingSig
