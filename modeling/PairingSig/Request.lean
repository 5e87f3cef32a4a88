import PairingSig.KeyRing
import PairingSig.Verifier

/-!
# Requests

The operations of the library as data: what may be asked, and what is answered and reported.
-/

namespace PairingSig

inductive Request where
  | generateKey (seed : Bytes)
  | derivePublicKey (key : Bytes)
  | sign (key message : Bytes)
  | verify (publicKey message signature : Bytes)
  | aggregate (signatures : List Bytes)
  | aggregateVerify (publicKeys messages : List Bytes) (signature : Bytes)
  | hashMessage (message : Bytes)
  | readPrivateKey (written : Bytes)
  | readPublicKey (written : Bytes)
  | readSignature (written : Bytes)
  | useVerifier (capacity : Nat) (steps : List Verifier.Step)
  | useKeyRing (steps : List KeyRing.Step)
  | describeFault (fault : Fault)
  | listConstants
  deriving DecidableEq, Repr

inductive Answer where
  | refused (fault : Fault)
  | accepted
  | written (bytes : Bytes)
  | verifierReports (reports : List Verifier.Report)
  | keyRingAnswers (answers : List KeyRing.Answer)
  | faultDescription (fault : Fault)
  | constants

/-- An answer with the events reported on the way. -/
structure Response where
  answer : Answer
  events : List Event

namespace Response

/-- The response with written bytes. -/
def ofWritten (o : Outcome Bytes) : Response :=
  match o.result with
  | .ok bs => ⟨.written bs, o.events⟩
  | .error f => ⟨.refused f, o.events⟩

def ofVerdict (o : Outcome Unit) : Response :=
  match o.result with
  | .ok () => ⟨.accepted, o.events⟩
  | .error f => ⟨.refused f, o.events⟩

def silent (a : Answer) : Response :=
  ⟨a, []⟩

end Response

namespace Request

variable (G : PairingGroups)

def respond : Request → Response
  | .generateKey seed => .ofWritten (Scheme.generateKey seed)
  | .derivePublicKey key => .ofWritten (Scheme.derivePublicKey G key)
  | .sign key message => .ofWritten (Scheme.sign G key message)
  | .verify k m s => .ofVerdict (Scheme.verify G k m s)
  | .aggregate sigs => .ofWritten (Scheme.aggregate G sigs)
  | .aggregateVerify ks ms s => .ofVerdict (Scheme.aggregateVerify G ks ms s)
  | .hashMessage m => .silent (.written (G.encode₂ (G.hash m)))
  | .readPrivateKey bs => .ofWritten (.silent ((PrivateKey.decode bs).map PrivateKey.encode))
  | .readPublicKey bs =>
    .ofWritten (.silent ((PublicKey.decode (G := G) bs).map PublicKey.encode))
  | .readSignature bs =>
    .ofWritten (.silent ((Signature.decode (G := G) bs).map Signature.encode))
  | .useVerifier capacity steps =>
    let reports := ((Verifier.fresh capacity : Verifier G).run steps).1
    ⟨.verifierReports reports, reports.flatMap fun r => r.outcome.events⟩
  | .useKeyRing steps => .silent (.keyRingAnswers ((KeyRing.empty : KeyRing G).run steps).1)
  | .describeFault f => .silent (.faultDescription f)
  | .listConstants => .silent .constants

/-- The events that requests report, in order. -/
def events (requests : List Request) : List Event :=
  requests.flatMap fun r => (r.respond G).events

end Request

end PairingSig
