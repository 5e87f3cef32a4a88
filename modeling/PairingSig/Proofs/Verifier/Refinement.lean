import PairingSig.Proofs.Groups.Values
import PairingSig.Proofs.Verifier.Steps

/-!
# The verifier against the scheme

A verifier answers every step as the scheme does on the same bytes, whatever it remembers. The two
check their inputs in orders of their own, and the orders are told apart by one kind of input only:
an aggregate verification without keys whose signature cannot be read, where the verifier misses the
keys and the scheme the signature.
-/

namespace PairingSig.Verifier

variable {G : PairingGroups}

/-- What the scheme, which remembers nothing, answers to a step. -/
def Step.stateless (G : PairingGroups) : Step → Except Fault Answer
  | .verify k m s => (Scheme.verify G k m s).result.map fun _ => .accepted
  | .aggregate sigs => (Scheme.aggregate G sigs).result.map .sum
  | .verifyAggregate ks ms s => (Scheme.aggregateVerify G ks ms s).result.map fun _ => .accepted

theorem result_aggregate (signatures : List Bytes) :
    aggregate (G := G) signatures = (Scheme.aggregate G signatures).result := by
  rw [Scheme.result_aggregate, aggregate]
  cases (signatures.mapM Signature.decode : Except Fault (List (Signature G))) <;> rfl

/-! ## Steps with keys -/

theorem result_verify {v : Verifier G} (hv : v.Sound) (publicKey message signature : Bytes) :
    (v.verify publicKey message signature).1.result =
      (Scheme.verify G publicKey message signature).result := by
  rw [verify_eq, result_lookup hv, Scheme.result_verify]

/-- With at least one key the orders of the checks agree. -/
theorem result_verifyAggregate {v : Verifier G} (hv : v.Sound) {publicKeys : List Bytes}
    (hne : publicKeys ≠ []) (messages : List Bytes) (signature : Bytes) :
    (v.verifyAggregate publicKeys messages signature).1.result =
      (Scheme.aggregateVerify G publicKeys messages signature).result := by
  obtain ⟨rest, -, hstep⟩ := verifyAggregate_eq v hne messages signature
  rw [hstep, lookupAll_eq hv, Scheme.result_aggregateVerify]

theorem result_step {v : Verifier G} (hv : v.Sound) (s : Step)
    (hs : ∀ ms t, s ≠ .verifyAggregate [] ms t) : (v.step s).1.result = s.stateless G := by
  cases s with
  | verify k m t =>
    show (v.verify k m t).1.result.map _ = (Scheme.verify G k m t).result.map _
    rw [result_verify hv]
  | aggregate sigs =>
    show (aggregate (G := G) sigs).map _ = (Scheme.aggregate G sigs).result.map _
    rw [result_aggregate]
  | verifyAggregate ks ms t =>
    -- Without keys the two would read their inputs in different orders.
    have hne : ks ≠ [] := fun h => hs ms t (by rw [h])
    show (v.verifyAggregate ks ms t).1.result.map _ =
      (Scheme.aggregateVerify G ks ms t).result.map _
    rw [result_verifyAggregate hv hne]

/-! ## Steps without keys -/

/-- The scheme reads the signature before it misses the keys. -/
theorem stateless_noKeys (messages : List Bytes) (signature : Bytes) :
    (Step.verifyAggregate [] messages signature).stateless G =
      (do
        let _ : Signature G ← Signature.decode signature
        .error .noPublicKeys) := by
  show (Scheme.aggregateVerify G [] messages signature).result.map _ = _
  rw [Scheme.result_aggregateVerify]
  cases (Signature.decode signature : Except Fault (Signature G)) <;> rfl

/-- An unreadable signature is a fault of its own, never that of missing keys. -/
theorem step_noKeys_eq_stateless_iff (v : Verifier G) (messages : List Bytes) (signature : Bytes) :
    (v.step (.verifyAggregate [] messages signature)).1.result =
        (Step.verifyAggregate [] messages signature).stateless G ↔
      ¬ ∃ f, (Signature.decode signature : Except Fault (Signature G)) = .error f := by
  rw [stateless_noKeys]
  cases hs : (Signature.decode signature : Except Fault (Signature G)) with
  | error f =>
    -- The fault of the signature is one of a point.
    obtain ⟨d, rfl⟩ := Signature.decode_error hs
    refine iff_of_false ?_ fun h => h ⟨_, rfl⟩
    intro h
    cases h
  | ok s =>
    refine iff_of_true rfl ?_
    rintro ⟨f, hf⟩
    cases hf

/-! ## The refinement -/

/-- After any run of a verifier of any capacity, a step answers as the scheme does, unless it
verifies an aggregate without keys and with an unreadable signature; then it misses the keys, and
the scheme refuses the signature. -/
theorem step_run_eq_stateless_iff (capacity : Nat) (steps : List Step) (s : Step) :
    let v : Verifier G := ((fresh capacity : Verifier G).run steps).2
    ((v.step s).1.result = s.stateless G ↔
        ¬ ∃ ms t f, s = .verifyAggregate [] ms t ∧
          (Signature.decode t : Except Fault (Signature G)) = .error f) ∧
      ∀ ms t f, s = .verifyAggregate [] ms t →
        (Signature.decode t : Except Fault (Signature G)) = .error f →
          (v.step s).1.result = .error .noPublicKeys ∧ s.stateless G = .error f := by
  intro v
  have hv : v.Sound := sound_run (sound_fresh capacity) steps
  constructor
  · by_cases hs : ∃ ms t, s = .verifyAggregate [] ms t
    -- Without keys it depends on the signature whether the first fault is the same.
    · obtain ⟨ms, t, rfl⟩ := hs
      rw [step_noKeys_eq_stateless_iff, not_iff_not]
      constructor
      · rintro ⟨f, hf⟩
        exact ⟨ms, t, f, rfl, hf⟩
      · rintro ⟨ms', t', f, heq, hf⟩
        cases heq
        exact ⟨f, hf⟩
    -- Any other step answers as the scheme does.
    · refine iff_of_true (result_step hv s fun ms t h => hs ⟨ms, t, h⟩) ?_
      rintro ⟨ms, t, f, h, -⟩
      exact hs ⟨ms, t, h⟩
  · rintro ms t f rfl hf
    refine ⟨rfl, ?_⟩
    rw [stateless_noKeys, hf]
    rfl

end PairingSig.Verifier
