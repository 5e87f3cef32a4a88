import PairingSig.Proofs.Groups.Exponents
import PairingSig.Proofs.Scheme.Events
import PairingSig.Proofs.Verifier.Steps

/-!
# What the events of a verifier tell

A step of a verifier reports one cache miss for each key that it looks up and does not find, and
after these, if it is an aggregate verification whose test fails, the number of signers.
-/

namespace PairingSig

namespace Verifier

variable {G : PairingGroups}

/-- How many keys are not found when they are looked up one after the other. -/
def missed (v : Verifier G) : List Bytes → Nat
  | [] => 0
  | k :: rest => (if v.cache.keys.contains k then 0 else 1) + (v.lookup k).2.missed rest

/-- What a step reports after its lookups when it ends with a fault or with none. -/
def Step.reported : Step → Option Fault → List Event
  | .verifyAggregate ks _ _, f? => onRejection (.aggregateVerificationFailed ks.length) f?
  | _, _ => []

/-- A lookup that misses reports that it does, and nothing of the key. -/
theorem lookupEvents_eq_replicate {v : Verifier G} (hv : v.Sound) (keys : List Bytes) :
    v.lookupEvents keys = List.replicate (v.missed keys) .cacheMiss := by
  induction keys generalizing v with
  | nil => rfl
  | cons k rest ih =>
    rw [lookupEvents, missed, List.replicate_add, ih (sound_lookup hv k), events_lookup hv]
    by_cases hk : k ∈ v.cache.keys <;> simp [hk]

/-- With at least one key, the failed test comes after the lookups. -/
theorem events_verifyAggregate {v : Verifier G} (hv : v.Sound) {publicKeys : List Bytes}
    (hne : publicKeys ≠ []) (messages : List Bytes) (signature : Bytes) :
    (v.verifyAggregate publicKeys messages signature).1.events =
      v.lookupEvents (attempted G publicKeys) ++
        onRejection (.aggregateVerificationFailed publicKeys.length)
          (v.verifyAggregate publicKeys messages signature).1.fault? := by
  rw [verifyAggregate, if_neg (by simpa using hne), lookupAll_eq hv]
  -- A fault in reading is one of a point, so what ends before the test reports nothing more.
  cases hkeys : (publicKeys.mapM PublicKey.decode : Except Fault (List (PublicKey G))) with
  | error f =>
    obtain ⟨k, -, hk⟩ := exists_of_mapM_eq_error hkeys
    obtain ⟨d, rfl⟩ := PublicKey.decode_error hk
    exact (List.append_nil _).symm
  | ok keys =>
    cases hs : (Signature.decode signature : Except Fault (Signature G)) with
    | error f =>
      obtain ⟨d, rfl⟩ := Signature.decode_error hs
      exact (List.append_nil _).symm
    | ok s =>
      have hevents := Scheme.events_verifyDistinct keys messages s
      rw [length_eq_of_mapM_eq_ok hkeys] at hevents
      exact congrArg (v.lookupEvents (attempted G publicKeys) ++ ·) hevents

/-- **What a step reports**: its cache misses, then the test that failed. -/
theorem events_step_eq {v : Verifier G} (hv : v.Sound) (s : Step) :
    (v.step s).1.events =
      List.replicate (v.missed (lookups G s)) .cacheMiss ++ s.reported (v.step s).1.fault? := by
  rw [← lookupEvents_eq_replicate hv]
  cases s with
  | verify k m t =>
    show (v.verify k m t).1.events = _
    simp [verify_eq, lookups, lookupEvents, Step.reported]
  | aggregate sigs => rfl
  -- The answer of a step ends as its operation does, with the same fault or with none.
  | verifyAggregate ks ms t =>
    show (v.verifyAggregate ks ms t).1.events =
      _ ++ onRejection _ ((v.verifyAggregate ks ms t).1.map _).fault?
    rw [Outcome.fault?_map]
    by_cases hne : ks = []
    · subst hne
      rfl
    · exact events_verifyAggregate hv hne ms t

end Verifier

/-! ## Lengths and endings -/

/-- **Events tell lengths and endings only.** Two uses of an operation of the scheme report the same
events if their inputs have the same lengths and both succeed or both end with faults of one kind.
After any run, a step of a verifier reports its cache misses, without their keys, then the number of
signers of an aggregate that is rejected, and nothing else. -/
theorem events_tell_lengths_and_endings (G : PairingGroups) :
    (∀ a b : Request, a.SameLengths b →
      (a.respond G).answer.fault?.map Fault.unnumbered =
          (b.respond G).answer.fault?.map Fault.unnumbered →
        (a.respond G).events = (b.respond G).events) ∧
    ∀ (capacity : Nat) (before : List Verifier.Step) (s : Verifier.Step),
      let v : Verifier G := ((Verifier.fresh capacity : Verifier G).run before).2
      (v.step s).1.events =
        List.replicate (v.missed (Verifier.lookups G s)) .cacheMiss ++
          s.reported (v.step s).1.fault? := by
  constructor
  · intro a b hlengths hkind
    exact hlengths.events_eq hkind
  · intro capacity before s v
    have hv : v.Sound := Verifier.sound_run (Verifier.sound_fresh capacity) before
    exact Verifier.events_step_eq hv s

/-- Two keys sign two messages of one byte. -/
theorem events_tell_lengths_and_endings_sign :
    let a := Request.sign sampleSigner.encode [1]
    let b := Request.sign (PrivateKey.ofScalar (.ofNat 2)).encode [2]
    a.SameLengths b ∧
      (a.respond standardGroups).answer.fault?.map Fault.unnumbered =
        (b.respond standardGroups).answer.fault?.map Fault.unnumbered ∧
      (a.respond standardGroups).events = (b.respond standardGroups).events := by
  intro a b
  have hlengths : a.SameLengths b := .sign (by decide +kernel) rfl
  have hkind : (a.respond standardGroups).answer.fault?.map Fault.unnumbered =
      (b.respond standardGroups).answer.fault?.map Fault.unnumbered := by
    decide +kernel
  exact ⟨hlengths, hkind, (events_tell_lengths_and_endings standardGroups).1 a b hlengths hkind⟩

end PairingSig
