import PairingSig.Proofs.Groups.Values
import PairingSig.Proofs.Key.Private
import PairingSig.Request

/-!
# What the events of the operations tell

The events of an operation follow from the lengths of its inputs and from how it ends: they are the
same for inputs of the same lengths that end alike. Some faults are logged, and with them numbers;
these are lengths of inputs again.

- **Endings**: `Outcome.fault?` is how an operation ends, and `Fault.unnumbered` a fault without its
  numbers;
- **Reports**: `Request.reported` says which events an operation reports when it ends in some way,
  and `events_respond` that it reports them;
- **Two runs**: `SameLengths.events_eq`.
-/

namespace PairingSig

/-! ## Endings -/

/-- The fault that an outcome ends with, if it does not succeed. -/
def Outcome.fault? {α : Type} (o : Outcome α) : Option Fault :=
  match o.result with
  | .error f => some f
  | .ok _ => none

theorem Outcome.fault?_eq_some_iff {α : Type} {o : Outcome α} {f : Fault} :
    o.fault? = some f ↔ o.result = .error f := by
  rcases o with ⟨_ | _, events⟩ <;> simp [fault?]

theorem Outcome.fault?_map {α β : Type} (o : Outcome α) (g : α → β) :
    (o.map g).fault? = o.fault? := by
  rcases o with ⟨_ | _, events⟩ <;> rfl

/-- The fault that a request is refused for, if it is. -/
def Answer.fault? : Answer → Option Fault
  | .refused f => some f
  | _ => none

namespace Response

theorem events_ofWritten (o : Outcome Bytes) : (ofWritten o).events = o.events := by
  rcases o with ⟨_ | _, events⟩ <;> rfl

theorem fault?_ofWritten (o : Outcome Bytes) : (ofWritten o).answer.fault? = o.fault? := by
  rcases o with ⟨_ | _, events⟩ <;> rfl

theorem events_ofVerdict (o : Outcome Unit) : (ofVerdict o).events = o.events := by
  rcases o with ⟨_ | _, events⟩ <;> rfl

theorem fault?_ofVerdict (o : Outcome Unit) : (ofVerdict o).answer.fault? = o.fault? := by
  rcases o with ⟨_ | _, events⟩ <;> rfl

end Response

namespace Fault

/-- The kind of a fault, without its numbers. -/
def unnumbered : Fault → Fault
  | .shortSeed _ => .shortSeed 0
  | .privateKey (.length _) => .privateKey (.length 0)
  | .point (.publicKeyLength _) => .point (.publicKeyLength 0)
  | .point (.signatureLength _) => .point (.signatureLength 0)
  | .countMismatch _ _ => .countMismatch 0 0
  | .repeatedMessage _ => .repeatedMessage 0
  | f => f

/-- Faults of a seed or a private key of a length: they have no number but that length. -/
inductive TellsOnly (length : Nat) : Fault → Prop where
  | shortSeed : TellsOnly length (.shortSeed length)
  | keyLength : TellsOnly length (.privateKey (.length length))
  | outOfRange : TellsOnly length (.privateKey .outOfRange)
  | zero : TellsOnly length (.privateKey .zero)

/-- The length is known anyway, so the kind of such a fault is all there is to it. -/
theorem TellsOnly.eq_of_unnumbered {n : Nat} {f g : Fault} (hf : f.TellsOnly n)
    (hg : g.TellsOnly n) (h : f.unnumbered = g.unnumbered) : f = g := by
  cases hf <;> cases hg <;> first | rfl | cases h

/-- The same for endings that may also be successes. -/
theorem eq_of_tellsOnly {n : Nat} {f? g? : Option Fault} (hf : ∀ f ∈ f?, f.TellsOnly n)
    (hg : ∀ g ∈ g?, g.TellsOnly n) (h : f?.map unnumbered = g?.map unnumbered) : f? = g? := by
  cases f? with
  | none => exact (Option.map_eq_none_iff.1 h.symm).symm
  | some f =>
    obtain ⟨g, rfl, hkind⟩ := Option.map_eq_some_iff.1 h.symm
    exact congrArg some ((hf f rfl).eq_of_unnumbered (hg g rfl) hkind.symm)

end Fault

theorem KeyGeneration.tellsOnly_of_generate {seed : Bytes} {f : Fault}
    (h : generate seed = .error f) : f.TellsOnly seed.length := by
  unfold generate at h
  split at h
  · cases h
    exact .shortSeed
  · cases h

theorem PrivateKey.tellsOnly_of_decode {bs : Bytes} {f : Fault} (h : decode bs = .error f) :
    f.TellsOnly bs.length := by
  cases decode_iff.1 h with
  | length => exact .keyLength
  | outOfRange => exact .outOfRange
  | zero => exact .zero

/-! ## Reports -/

/-- An event that is reported when a test of pairings fails. -/
def onRejection (e : Event) : Option Fault → List Event
  | some .signatureRejected => [e]
  | _ => []

/-- That it fails is seen without any numbers. -/
theorem onRejection_unnumbered (e : Event) (f? : Option Fault) :
    onRejection e (f?.map Fault.unnumbered) = onRejection e f? := by
  cases f? with
  | none => rfl
  | some f =>
    -- The kind of any other fault is another one.
    cases f with
    | privateKey d => cases d <;> rfl
    | point d => cases d <;> rfl
    | _ => rfl

/-- The events that an operation of the scheme reports when it ends with a fault or with none. -/
def Request.reported : Request → Option Fault → List Event
  | .generateKey seed, none => [.keyGenerated seed.length]
  | .generateKey _, some f => [.keyGenerationRejected f]
  | .derivePublicKey _, some f => [.derivationRejected f]
  | .sign _ message, none => [.messageSigned message.length]
  | .sign _ _, some f => [.signingRejected f]
  | .verify _ message _, f? => onRejection (.verificationFailed message.length) f?
  | .aggregate sigs, none => [.signaturesAggregated sigs.length]
  | .aggregateVerify keys _ _, f? => onRejection (.aggregateVerificationFailed keys.length) f?
  | _, _ => []

/-- Nothing is logged of faults in an aggregation. -/
theorem Request.reported_aggregate (signatures : List Bytes) (f? : Option Fault) :
    (Request.aggregate signatures).reported f? =
      if f?.isNone then [.signaturesAggregated signatures.length] else [] := by
  cases f? <;> rfl

namespace Scheme

variable {G : PairingGroups}

theorem events_generateKey (seed : Bytes) :
    (generateKey seed).events = (Request.generateKey seed).reported (generateKey seed).fault? := by
  unfold generateKey
  cases KeyGeneration.generate seed <;> rfl

theorem events_derivePublicKey (key : Bytes) :
    (derivePublicKey G key).events =
      (Request.derivePublicKey key).reported (derivePublicKey G key).fault? := by
  unfold derivePublicKey
  cases PrivateKey.decode key <;> rfl

theorem events_sign (key message : Bytes) :
    (sign G key message).events =
      (Request.sign key message).reported (sign G key message).fault? := by
  unfold sign
  cases PrivateKey.decode key <;> rfl

theorem events_verify (publicKey message signature : Bytes) :
    (verify G publicKey message signature).events =
      (Request.verify publicKey message signature).reported
        (verify G publicKey message signature).fault? := by
  unfold verify
  -- A fault in reading is one of a point, never that of a failed test.
  cases hk : (PublicKey.decode publicKey : Except Fault (PublicKey G)) with
  | error f =>
    obtain ⟨d, rfl⟩ := PublicKey.decode_error hk
    rfl
  | ok k =>
    cases hs : (Signature.decode signature : Except Fault (Signature G)) with
    | error f =>
      obtain ⟨d, rfl⟩ := Signature.decode_error hs
      rfl
    | ok s =>
      dsimp only
      split <;> rfl

theorem events_aggregate (signatures : List Bytes) :
    (aggregate G signatures).events =
      (Request.aggregate signatures).reported (aggregate G signatures).fault? := by
  unfold aggregate
  cases hsigs : (signatures.mapM Signature.decode : Except Fault (List (Signature G))) with
  | error f => rfl
  | ok sigs =>
    -- As many signatures are added up as were read.
    have hlength := length_eq_of_mapM_eq_ok hsigs
    dsimp only
    rw [hlength]
    cases Signature.aggregate sigs <;> rfl

/-- Of the checks on keys and messages only the last one is reported. -/
theorem events_verifyDistinct (keys : List (PublicKey G)) (messages : List Bytes)
    (s : Signature G) :
    (verifyDistinct keys messages s).events =
      onRejection (.aggregateVerificationFailed keys.length)
        (verifyDistinct keys messages s).fault? := by
  unfold verifyDistinct
  split
  -- No keys.
  · rfl
  · split
    -- Not as many messages.
    · rfl
    · split
      -- A message twice.
      · rfl
      · split <;> rfl

theorem events_aggregateVerify (publicKeys messages : List Bytes) (signature : Bytes) :
    (aggregateVerify G publicKeys messages signature).events =
      (Request.aggregateVerify publicKeys messages signature).reported
        (aggregateVerify G publicKeys messages signature).fault? := by
  unfold aggregateVerify
  cases hkeys : (publicKeys.mapM PublicKey.decode : Except Fault (List (PublicKey G))) with
  | error f =>
    obtain ⟨k, -, hk⟩ := exists_of_mapM_eq_error hkeys
    obtain ⟨d, rfl⟩ := PublicKey.decode_error hk
    rfl
  | ok keys =>
    cases hs : (Signature.decode signature : Except Fault (Signature G)) with
    | error f =>
      obtain ⟨d, rfl⟩ := Signature.decode_error hs
      rfl
    | ok s =>
      -- The number that is reported is that of the keys that were read.
      have hlength := length_eq_of_mapM_eq_ok hkeys
      have hevents := events_verifyDistinct keys messages s
      rw [hlength] at hevents
      exact hevents

end Scheme

/-! ## Two runs -/

namespace Request

/-- Two uses of one operation of the scheme whose inputs have the same lengths. Lists are as long as
each other; their elements may differ in length. -/
inductive SameLengths : Request → Request → Prop where
  /-- Seeds of one length. -/
  | generateKey {seed seed' : Bytes} : seed.length = seed'.length →
      SameLengths (.generateKey seed) (.generateKey seed')
  /-- Private keys of one length. -/
  | derivePublicKey {key key' : Bytes} : key.length = key'.length →
      SameLengths (.derivePublicKey key) (.derivePublicKey key')
  /-- Private keys of one length, and messages of one length. -/
  | sign {key key' message message' : Bytes} : key.length = key'.length →
      message.length = message'.length → SameLengths (.sign key message) (.sign key' message')
  /-- Keys, messages and signatures, each of one length. -/
  | verify {k k' message message' s s' : Bytes} : k.length = k'.length →
      message.length = message'.length → s.length = s'.length →
      SameLengths (.verify k message s) (.verify k' message' s')
  /-- The same number of signatures. -/
  | aggregate {sigs sigs' : List Bytes} : sigs.length = sigs'.length →
      SameLengths (.aggregate sigs) (.aggregate sigs')
  /-- The same number of keys and of messages, and signatures of one length. -/
  | aggregateVerify {ks ks' messages messages' : List Bytes} {s s' : Bytes} :
      ks.length = ks'.length → messages.length = messages'.length → s.length = s'.length →
      SameLengths (.aggregateVerify ks messages s) (.aggregateVerify ks' messages' s')

variable {G : PairingGroups} {a b : Request}

theorem SameLengths.symm (h : SameLengths a b) : SameLengths b a := by
  cases h <;> constructor <;> apply Eq.symm <;> assumption

/-- **What an operation reports** follows from how it ends and from the lengths of its inputs. -/
theorem events_respond (h : SameLengths a b) :
    (a.respond G).events = a.reported (a.respond G).answer.fault? := by
  -- A response has the events and the ending of its outcome, of whichever kind the answer is.
  cases h with
  | generateKey =>
    rw [respond, Response.events_ofWritten, Response.fault?_ofWritten, Scheme.events_generateKey]
  | derivePublicKey =>
    rw [respond, Response.events_ofWritten, Response.fault?_ofWritten,
      Scheme.events_derivePublicKey]
  | sign =>
    rw [respond, Response.events_ofWritten, Response.fault?_ofWritten, Scheme.events_sign]
  | verify =>
    rw [respond, Response.events_ofVerdict, Response.fault?_ofVerdict, Scheme.events_verify]
  | aggregate =>
    rw [respond, Response.events_ofWritten, Response.fault?_ofWritten, Scheme.events_aggregate]
  | aggregateVerify =>
    rw [respond, Response.events_ofVerdict, Response.fault?_ofVerdict,
      Scheme.events_aggregateVerify]

/-! ### Faults that are logged -/

theorem tellsOnly_ofWritten {o : Outcome Bytes} {n : Nat}
    (h : ∀ f, o.result = .error f → f.TellsOnly n) :
    ∀ f ∈ (Response.ofWritten o).answer.fault?, f.TellsOnly n := by
  intro f hf
  rw [Response.fault?_ofWritten] at hf
  exact h f (Outcome.fault?_eq_some_iff.1 hf)

theorem tellsOnly_generateKey (seed : Bytes) :
    ∀ f ∈ ((generateKey seed).respond G).answer.fault?, f.TellsOnly seed.length := by
  apply tellsOnly_ofWritten
  intro f hf
  rw [Scheme.result_generateKey, map_eq_error_iff] at hf
  exact KeyGeneration.tellsOnly_of_generate hf

theorem tellsOnly_derivePublicKey (key : Bytes) :
    ∀ f ∈ ((derivePublicKey key).respond G).answer.fault?, f.TellsOnly key.length := by
  apply tellsOnly_ofWritten
  intro f hf
  exact PrivateKey.tellsOnly_of_decode ((PrivateKey.derivePublicKey_error_iff G).1 hf)

theorem tellsOnly_sign (key message : Bytes) :
    ∀ f ∈ ((sign key message).respond G).answer.fault?, f.TellsOnly key.length := by
  apply tellsOnly_ofWritten
  intro f hf
  exact PrivateKey.tellsOnly_of_decode ((PrivateKey.sign_error_iff G).1 hf)

/-! ### The same lengths and the same ending -/

/-- What is reported of an ending tells no more of the inputs than their lengths. -/
theorem SameLengths.reported_eq (h : SameLengths a b) (f? : Option Fault) :
    a.reported f? = b.reported f? := by
  cases h <;> cases f? <;> simp [reported, *]

/-- Two uses of an operation that end alike report the same, whatever the contents of the inputs. -/
theorem SameLengths.events_eq (h : SameLengths a b)
    (hkind : (a.respond G).answer.fault?.map Fault.unnumbered =
      (b.respond G).answer.fault?.map Fault.unnumbered) :
    (a.respond G).events = (b.respond G).events := by
  rw [events_respond h, events_respond h.symm, h.reported_eq]
  cases h with
  -- Where the fault is logged, the two are the same fault, numbers and all.
  | generateKey hseed =>
    rw [Fault.eq_of_tellsOnly (tellsOnly_generateKey _) (hseed ▸ tellsOnly_generateKey _) hkind]
  | derivePublicKey hkey =>
    rw [Fault.eq_of_tellsOnly (tellsOnly_derivePublicKey _) (hkey ▸ tellsOnly_derivePublicKey _)
      hkind]
  | sign hkey _ =>
    rw [Fault.eq_of_tellsOnly (tellsOnly_sign _ _) (hkey ▸ tellsOnly_sign _ _) hkind]
  -- Elsewhere the kind of the fault decides.
  | verify | aggregateVerify =>
    rw [reported, reported, ← onRejection_unnumbered, hkind, onRejection_unnumbered]
  | aggregate =>
    rw [reported_aggregate, ← Option.isNone_map, hkind, Option.isNone_map, ← reported_aggregate]

end Request
end PairingSig
