import PairingSig.Fault

/-!
# Events

What an operation reports besides its result. An event has a level, the target it is filed under,
named fields, and a line of text; it tells lengths, counts and causes, never the contents of a
secret.
-/

namespace PairingSig

/-- How verbose an event is, or how verbose a filter lets events be. -/
inductive Level where
  | off
  | error
  | warn
  | info
  | debug
  | trace
  deriving DecidableEq, Repr

/-- Levels in the order of verbosity; `off` admits nothing. -/
def Level.rank : Level → Nat
  | .off => 0
  | .error => 1
  | .warn => 2
  | .info => 3
  | .debug => 4
  | .trace => 5

def Level.name : Level → String
  | .off => "OFF"
  | .error => "ERROR"
  | .warn => "WARN"
  | .info => "INFO"
  | .debug => "DEBUG"
  | .trace => "TRACE"

inductive Event where
  | keyGenerated (seedLength : Nat)
  | keyGenerationRejected (cause : Fault)
  | derivationRejected (cause : Fault)
  | messageSigned (messageLength : Nat)
  | signingRejected (cause : Fault)
  | verificationFailed (messageLength : Nat)
  | signaturesAggregated (count : Nat)
  | aggregateVerificationFailed (signers : Nat)
  | cacheMiss
  deriving DecidableEq, Repr

namespace Event

/-- Successes and cache misses are traced, failures are for debugging. -/
def level : Event → Level
  | .keyGenerated _ => .trace
  | .messageSigned _ => .trace
  | .signaturesAggregated _ => .trace
  | .cacheMiss => .trace
  | _ => .debug

/-- The target of an event: cache misses belong to the verifier, all others to the scheme. -/
def target : Event → String
  | .cacheMiss => "basic_blssig::verifier"
  | _ => "basic_blssig::scheme"

/-- The field that an event carries besides its message, if it has one. -/
def detail? : Event → Option String
  | .keyGenerated _ => some "seed_len"
  | .keyGenerationRejected _ => some "err"
  | .derivationRejected _ => some "err"
  | .messageSigned _ => some "msg_len"
  | .signingRejected _ => some "err"
  | .verificationFailed _ => some "msg_len"
  | .signaturesAggregated _ => some "count"
  | .aggregateVerificationFailed _ => some "signers"
  | .cacheMiss => none

/-- The names of the fields of an event; each has a message. -/
def fields (e : Event) : List String :=
  "message" :: e.detail?.toList

/-- The text of an event without its level. -/
def text : Event → String
  | .keyGenerated n => "generated private key seed_len=" ++ toString n
  | .keyGenerationRejected f => "key generation rejected err=" ++ f.message
  | .derivationRejected f => "public key derivation rejected err=" ++ f.message
  | .messageSigned n => "signed message msg_len=" ++ toString n
  | .signingRejected f => "signing rejected err=" ++ f.message
  | .verificationFailed n => "signature verification failed msg_len=" ++ toString n
  | .signaturesAggregated n => "aggregated signatures count=" ++ toString n
  | .aggregateVerificationFailed n => "aggregate verification failed signers=" ++ toString n
  | .cacheMiss => "public key cache miss"

def line (e : Event) : String :=
  e.level.name ++ " " ++ e.text

end Event

end PairingSig
