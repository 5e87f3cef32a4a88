import PairingSig.Proofs.Scheme.Results
import PairingSig.Proofs.Verifier.Lookup

/-!
# Steps of a verifier

What a step answers, reports and leaves behind, in terms of the keys that it looks up.

- **Answers**: `verify_eq` and `verifyAggregate_eq` list the checks in their order;
- **Events**: those of the lookups come first, and no other cache miss is reported (`events_step`);
- **States**: a run leaves behind what looking up its keys in order does (`state_run`).
-/

namespace PairingSig.Verifier

variable {G : PairingGroups}

/-! ## Operations -/

theorem verify_eq (v : Verifier G) (publicKey message signature : Bytes) :
    v.verify publicKey message signature =
      (⟨do
          let k ← (v.lookup publicKey).1.result
          let s ← Signature.decode signature
          if k.verifies message s then .ok () else .error .signatureRejected,
        (v.lookup publicKey).1.events⟩,
        (v.lookup publicKey).2) := by
  unfold verify
  -- What the lookup gives is kept whole; only its answer is looked into.
  rcases v.lookup publicKey with ⟨⟨result, events⟩, w⟩
  cases result with
  | error f => rfl
  | ok k =>
    cases (Signature.decode signature : Except Fault (Signature G)) with
    | error f => rfl
    | ok s =>
      show (if k.verifies message s then _ else _) =
        ((⟨if k.verifies message s then _ else _, _⟩, _) : Outcome Unit × Verifier G)
      split <;> rfl

/-- The checks on keys and messages report no cache miss. -/
theorem cacheMiss_notMem_verifyDistinct (keys : List (PublicKey G)) (messages : List Bytes)
    (s : Signature G) : Event.cacheMiss ∉ (Scheme.verifyDistinct keys messages s).events := by
  -- Every branch ends with the list of its events at hand.
  unfold Scheme.verifyDistinct
  split
  · simp
  · split
    · simp
    · split
      · simp
      · split <;> simp

/-- For at least one key, the keys are read first, then the signature, then all is checked. -/
theorem verifyAggregate_eq (v : Verifier G) {publicKeys : List Bytes} (hne : publicKeys ≠ [])
    (messages : List Bytes) (signature : Bytes) :
    ∃ rest, Event.cacheMiss ∉ rest ∧
      v.verifyAggregate publicKeys messages signature =
        (⟨do
            let keys ← (v.lookupAll publicKeys).1.result
            let s ← Signature.decode signature
            (Scheme.verifyDistinct keys messages s).result,
          (v.lookupAll publicKeys).1.events ++ rest⟩,
          (v.lookupAll publicKeys).2) := by
  rw [verifyAggregate, if_neg (by simpa using hne)]
  rcases v.lookupAll publicKeys with ⟨⟨result, events⟩, w⟩
  cases result with
  -- What ends with reading has no events behind those of the lookups.
  | error f => exact ⟨[], List.not_mem_nil, by rw [List.append_nil]; rfl⟩
  | ok keys =>
    cases hs : (Signature.decode signature : Except Fault (Signature G)) with
    | error f => exact ⟨[], List.not_mem_nil, by rw [List.append_nil]; rfl⟩
    | ok s => exact ⟨_, cacheMiss_notMem_verifyDistinct keys messages s, rfl⟩

/-! ## Steps -/

/-- Whatever its answer, a step leaves the verifier as looking up its keys does. -/
theorem state_step {v : Verifier G} (hv : v.Sound) (s : Step) :
    (v.step s).2 = v.lookedUp (lookups G s) := by
  cases s with
  | verify k m t =>
    show (v.verify k m t).2 = _
    rw [verify_eq]
    rfl
  | aggregate sigs => rfl
  | verifyAggregate ks ms t =>
    show (v.verifyAggregate ks ms t).2 = _
    by_cases hne : ks = []
    -- Without keys nothing is looked up.
    · subst hne
      rfl
    · obtain ⟨rest, -, hstep⟩ := verifyAggregate_eq v hne ms t
      rw [hstep, lookupAll_eq hv]
      rfl

/-- Only the lookups of a step report cache misses, and they report first. -/
theorem events_step {v : Verifier G} (hv : v.Sound) (s : Step) :
    ∃ rest, Event.cacheMiss ∉ rest ∧
      (v.step s).1.events = v.lookupEvents (lookups G s) ++ rest := by
  cases s with
  -- A rejected signature is not reported here.
  | verify k m t =>
    refine ⟨[], List.not_mem_nil, ?_⟩
    show (v.verify k m t).1.events = _
    simp [verify_eq, lookups, lookupEvents]
  | aggregate sigs => exact ⟨[], List.not_mem_nil, rfl⟩
  | verifyAggregate ks ms t =>
    by_cases hne : ks = []
    · subst hne
      exact ⟨[], List.not_mem_nil, rfl⟩
    · obtain ⟨rest, hrest, hstep⟩ := verifyAggregate_eq v hne ms t
      refine ⟨rest, hrest, ?_⟩
      show (v.verifyAggregate ks ms t).1.events = _
      rw [hstep, lookupAll_eq hv]
      rfl

/-- The cache misses of a step are those of its lookups. -/
theorem count_cacheMiss_step {v : Verifier G} (hv : v.Sound) (s : Step) :
    (v.step s).1.events.count .cacheMiss = (v.lookupEvents (lookups G s)).count .cacheMiss := by
  obtain ⟨rest, hrest, hevents⟩ := events_step hv s
  rw [hevents, List.count_append, List.count_eq_zero_of_not_mem hrest, Nat.add_zero]

/-! ## Runs -/

/-- A run leaves the verifier as looking up the keys of all its steps does. -/
theorem state_run {v : Verifier G} (hv : v.Sound) (steps : List Step) :
    (v.run steps).2 = v.lookedUp (steps.flatMap (lookups G)) := by
  -- A step leaves a sound verifier, from which the rest of the run starts.
  induction steps generalizing v with
  | nil => rfl
  | cons s rest ih =>
    have hstep := state_step hv s
    have hsound : (v.step s).2.Sound := hstep ▸ sound_lookedUp hv (lookups G s)
    show ((v.step s).2.run rest).2 = _
    rw [ih hsound, hstep, List.flatMap_cons, lookedUp_append]

theorem sound_run {v : Verifier G} (hv : v.Sound) (steps : List Step) :
    (v.run steps).2.Sound := by
  rw [state_run hv]
  exact sound_lookedUp hv _

end PairingSig.Verifier
