import PairingSig.Proofs.Verifier.Refinement

/-!
# One signature of one message

A signature of one message is verified by itself or as a sum of one signature, by the scheme or by a
verifier. The four ways check in orders of their own, and yet all give the same answer; the two of a
verifier also leave the same keys behind, in the same order, whichever check fails. So in a run
either may stand for the other.

- **The scheme**: `result_aggregateVerify_singleton`;
- **Steps**: `Alike` steps answer, miss and leave behind the same (`agrees_step`, `state_alike`);
- **Runs**: `run_alike`, and `verify_singleton` for the state that any run leaves.
-/

namespace PairingSig

variable {G : PairingGroups}

/-! ## The scheme -/

namespace Scheme

/-- One key and one message pass the checks ahead of the test. -/
theorem result_verifyDistinct_singleton (k : PublicKey G) (message : Bytes) (s : Signature G) :
    (verifyDistinct [k] [message] s).result =
      if k.verifies message s then .ok () else .error .signatureRejected :=
  result_verifyDistinct (List.cons_ne_nil _ _) rfl (List.nodup_singleton message) s

theorem result_aggregateVerify_singleton (publicKey message signature : Bytes) :
    (aggregateVerify G [publicKey] [message] signature).result =
      (verify G publicKey message signature).result := by
  rw [result_aggregateVerify, result_verify]
  -- Reading a list of one key has the fault of that key, and the checks in between are passed.
  cases hk : (PublicKey.decode publicKey : Except Fault (PublicKey G)) with
  | error f =>
    rw [mapM_cons_error hk]
    rfl
  | ok k =>
    rw [mapM_cons_ok hk]
    cases (Signature.decode signature : Except Fault (Signature G)) with
    | error f => rfl
    | ok s => exact result_verifyDistinct_singleton k message s

end Scheme

/-! ## Steps -/

namespace Verifier

/-- Steps of which either may stand for the other. -/
inductive Alike : Step → Step → Prop where
  | same (s : Step) : Alike s s
  /-- One signature is verified as a sum of one. -/
  | singleton (publicKey message signature : Bytes) :
      Alike (.verify publicKey message signature) (.verifyAggregate [publicKey] [message] signature)

/-- The only key of a list is looked up, whether it can be read or not. -/
theorem attempted_singleton (written : Bytes) : attempted G [written] = [written] := by
  rw [attempted_cons, attempted_nil, ite_self]

variable {v : Verifier G} {s s' : Step}

theorem Alike.lookups_eq (h : Alike s s') : lookups G s' = lookups G s := by
  cases h with
  | same => rfl
  | singleton publicKey _ _ => exact attempted_singleton publicKey

theorem state_alike (hv : v.Sound) (h : Alike s s') : (v.step s').2 = (v.step s).2 := by
  rw [state_step hv, state_step hv, h.lookups_eq]

theorem result_alike (hv : v.Sound) (h : Alike s s') :
    (v.step s').1.result = (v.step s).1.result := by
  cases h with
  | same => rfl
  | singleton publicKey message signature =>
    show (v.verifyAggregate [publicKey] [message] signature).1.result.map _ =
      (v.verify publicKey message signature).1.result.map _
    rw [result_verifyAggregate hv (List.cons_ne_nil _ _), result_verify hv,
      Scheme.result_aggregateVerify_singleton]

/-- Two reports have the same answer, and as many misses and remembered keys. -/
structure Report.Agrees (r r' : Report) : Prop where
  result_eq : r'.outcome.result = r.outcome.result
  misses_eq : r'.misses = r.misses
  cached_eq : r'.cached = r.cached

theorem agrees_step (hv : v.Sound) (h : Alike s s') :
    Report.Agrees ⟨(v.step s).1, (v.step s).2.cachedKeys⟩
      ⟨(v.step s').1, (v.step s').2.cachedKeys⟩ where
  result_eq := result_alike hv h
  misses_eq := by
    show (v.step s').1.events.count .cacheMiss = (v.step s).1.events.count .cacheMiss
    rw [count_cacheMiss_step hv, count_cacheMiss_step hv, h.lookups_eq]
  cached_eq := by rw [state_alike hv h]

/-! ## Runs -/

/-- **Steps of a run may be replaced by alike ones**: the reports agree one by one, and the verifier
is left the same. -/
theorem run_alike (hv : v.Sound) {steps steps' : List Step} (h : List.Forall₂ Alike steps steps') :
    List.Forall₂ Report.Agrees (v.run steps).1 (v.run steps').1 ∧
      (v.run steps').2 = (v.run steps).2 := by
  induction h generalizing v with
  | nil => exact ⟨.nil, rfl⟩
  | @cons s s' rest rest' hs _ ih =>
    -- The rests of the two runs start from one verifier.
    have hstate := state_alike hv hs
    have hsound : (v.step s).2.Sound := sound_run hv [s]
    obtain ⟨hreports, hrest⟩ := ih hsound
    constructor
    · refine .cons (agrees_step hv hs) ?_
      show List.Forall₂ Report.Agrees ((v.step s).2.run rest).1 ((v.step s').2.run rest').1
      rwa [hstate]
    · show ((v.step s').2.run rest').2 = ((v.step s).2.run rest).2
      rw [hstate, hrest]

/-- **Single and aggregate verification agree on one signature.** For all bytes the scheme gives the
same answer either way, a verifier gives it as well, whatever it was used for before, and either way
the same keys are remembered afterwards, in the same order. -/
theorem verify_singleton (capacity : Nat) (steps : List Step)
    (publicKey message signature : Bytes) :
    let v : Verifier G := ((fresh capacity : Verifier G).run steps).2
    let answer := (Scheme.verify G publicKey message signature).result
    (Scheme.aggregateVerify G [publicKey] [message] signature).result = answer ∧
    (v.verify publicKey message signature).1.result = answer ∧
    (v.verifyAggregate [publicKey] [message] signature).1.result = answer ∧
    (v.verifyAggregate [publicKey] [message] signature).2 =
      (v.verify publicKey message signature).2 := by
  intro v answer
  have hv : v.Sound := sound_run (sound_fresh capacity) steps
  have hanswer := Scheme.result_aggregateVerify_singleton (G := G) publicKey message signature
  refine ⟨hanswer, result_verify hv publicKey message signature, ?_, ?_⟩
  · rw [result_verifyAggregate hv (List.cons_ne_nil _ _), hanswer]
  · exact state_alike hv (.singleton publicKey message signature)

end Verifier

end PairingSig
