import PairingSig.Proofs.Groups.Equality
import PairingSig.Proofs.KeyRing.Steps

/-!
# Equal values of a ring

A ring holds values that were obtained in one way or another, so what it answers about their
equality is about points, and names that it calls equal may stand for each other in later steps.

- **Values**: `publicKey_obtained` and `signature_obtained`, by induction on the run;
- **Comparisons**: `same_after`;
- **Exchanged names**: `verify_after_of_same` and `aggregate_after_of_same`.
-/

namespace PairingSig.KeyRing

variable {G : PairingGroups} {steps : List Step} {name : String}

/-! ## Values -/

theorem publicKey_obtained {k : PublicKey G}
    (h : (after G steps).publicKeys.lookup name = some k) : k.Obtained := by
  -- Under a name stands what the last step put there, or what the steps before it left there.
  induction steps using List.reverseRecOn generalizing name k with
  | nil => cases h
  | append_singleton steps s ih =>
    rw [after_concat, ring_step, lookup_new_append] at h
    obtain hnew | ⟨-, hold⟩ := h
    · cases s with
      | derivePublicKey key out =>
        obtain ⟨x, -, heq⟩ := Option.map_eq_some_iff.1 hnew
        cases heq
        exact .derived x
      | readPublicKey written out =>
        obtain ⟨hk, rfl⟩ := toOption_map_eq_some hnew
        exact .read hk
      | _ => cases hnew
    · exact ih hold

theorem signature_obtained {t : Signature G}
    (h : (after G steps).signatures.lookup name = some t) : t.Obtained := by
  -- As for public keys.
  induction steps using List.reverseRecOn generalizing name t with
  | nil => cases h
  | append_singleton steps s ih =>
    rw [after_concat, ring_step, lookup_new_append] at h
    obtain hnew | ⟨-, hold⟩ := h
    · cases s with
      | sign key message out =>
        obtain ⟨x, -, heq⟩ := Option.map_eq_some_iff.1 hnew
        cases heq
        exact .signed x message
      | readSignature written out =>
        obtain ⟨ht, rfl⟩ := toOption_map_eq_some hnew
        exact .read ht
      | aggregate names out =>
        obtain ⟨sigs, hsigs, hnew⟩ := Option.bind_eq_some_iff.1 hnew
        obtain ⟨ht, rfl⟩ := toOption_map_eq_some hnew
        -- The addends stood in the ring before this step.
        refine .aggregated (fun u hu => ?_) ht
        obtain ⟨summand, hsummand⟩ := exists_lookup_of_mapM hsigs hu
        exact ih hsummand
      | _ => cases hnew
    · exact ih hold

/-! ## Comparisons -/

theorem step_samePublicKey {r : KeyRing G} {first second : String} {holds : Bool} :
    (r.step (.samePublicKey first second)).1 = .verdict holds ↔
      ∃ a b, r.publicKeys.lookup first = some a ∧ r.publicKeys.lookup second = some b ∧
        (a == b) = holds := by
  simp only [step]
  cases r.publicKeys.lookup first <;> cases r.publicKeys.lookup second <;> simp

theorem step_sameSignature {r : KeyRing G} {first second : String} {holds : Bool} :
    (r.step (.sameSignature first second)).1 = .verdict holds ↔
      ∃ s t, r.signatures.lookup first = some s ∧ r.signatures.lookup second = some t ∧
        (s == t) = holds := by
  simp only [step]
  cases r.signatures.lookup first <;> cases r.signatures.lookup second <;> simp

/-- **A ring compares points.** Two names have an answer when there are values under both, and it is
yes exactly when these stand for one point. -/
theorem same_after {first second : String} {holds : Bool} :
    let r := after standardGroups steps
    ((r.step (.samePublicKey first second)).1 = .verdict holds ↔
      ∃ a b, r.publicKeys.lookup first = some a ∧ r.publicKeys.lookup second = some b ∧
        (holds = true ↔
          ∃ A : (curve Fp).Point, Point.Represents a.point A ∧ Point.Represents b.point A)) ∧
    ((r.step (.sameSignature first second)).1 = .verdict holds ↔
      ∃ s t, r.signatures.lookup first = some s ∧ r.signatures.lookup second = some t ∧
        (holds = true ↔
          ∃ B : (curve Fp2).Point, Point.Represents s.point B ∧ Point.Represents t.point B)) := by
  intro r
  -- The values under the names were obtained in this run, and such values are equal as points are.
  rw [step_samePublicKey, step_sameSignature]
  constructor
  · refine exists₂_congr fun a b => and_congr_right fun ha => and_congr_right fun hb => ?_
    rw [← PublicKey.beq_iff_point (publicKey_obtained ha) (publicKey_obtained hb), eq_comm,
      Bool.eq_iff_iff]
  · refine exists₂_congr fun s t => and_congr_right fun hs => and_congr_right fun ht => ?_
    rw [← Signature.beq_iff_point (signature_obtained hs) (signature_obtained ht), eq_comm,
      Bool.eq_iff_iff]

/-! ## Exchanged names -/

/-- Equal keys verify equal signatures alike. -/
theorem verify_after_of_same {key key' signature signature' : String} :
    let r := after standardGroups steps
    (r.step (.samePublicKey key key')).1 = .verdict true →
    (r.step (.sameSignature signature signature')).1 = .verdict true →
    ∀ message, (r.step (.verify key message signature)).1 =
      (r.step (.verify key' message signature')).1 := by
  intro r hkey hsignature message
  obtain ⟨a, b, ha, hb, hab⟩ := step_samePublicKey.1 hkey
  obtain ⟨s, t, hs, ht, hst⟩ := step_sameSignature.1 hsignature
  -- Equal values are proportional triples, which the pairing does not tell apart.
  have hverifies := PublicKey.verifies_congr
    (PublicKey.proportional_of_beq (publicKey_obtained ha) (publicKey_obtained hb) hab)
    (Signature.proportional_of_beq (signature_obtained hs) (signature_obtained ht) hst) message
  simp only [step, ha, hb, hs, ht, hverifies]

/-- Under names that are equal one by one stand signatures that are. -/
theorem exists_lookups_of_same {r : KeyRing G} {names names' : List String}
    (h : List.Forall₂ (fun s s' => (r.step (.sameSignature s s')).1 = .verdict true) names names') :
    ∃ sigs sigs', (names.mapM fun name => r.signatures.lookup name) = some sigs ∧
      (names'.mapM fun name => r.signatures.lookup name) = some sigs' ∧
      List.Forall₂ (fun s t => (s == t) = true) sigs sigs' := by
  induction h with
  | nil => exact ⟨[], [], rfl, rfl, .nil⟩
  | cons hname _ ih =>
    obtain ⟨s, t, hs, ht, hst⟩ := step_sameSignature.1 hname
    obtain ⟨sigs, sigs', hsigs, hsigs', hrest⟩ := ih
    refine ⟨s :: sigs, t :: sigs', ?_, ?_, .cons hst hrest⟩
    · rw [List.mapM_cons, hs, hsigs]
      rfl
    · rw [List.mapM_cons, ht, hsigs']
      rfl

/-- Equal signatures have one written sum, or none if there are no signatures. -/
theorem aggregate_after_of_same {names names' : List String} (out out' : String) :
    let r := after standardGroups steps
    List.Forall₂ (fun s s' => (r.step (.sameSignature s s')).1 = .verdict true) names names' →
      (r.step (.aggregate names out)).1 = (r.step (.aggregate names' out')).1 := by
  intro r h
  obtain ⟨sigs, sigs', hsigs, hsigs', hlists⟩ := exists_lookups_of_same h
  have hobtained : ∀ {names : List String} {sigs : List (Signature standardGroups)},
      (names.mapM fun name => r.signatures.lookup name) = some sigs → ∀ s ∈ sigs, s.Obtained := by
    intro names sigs hsigs s hs
    obtain ⟨name, hname⟩ := exists_lookup_of_mapM hsigs hs
    exact signature_obtained hname
  -- Equal sums are written alike; that there is a sum at all depends on the length only.
  have hsum := Signature.beq_iff.1
    (Signature.sum_beq (hobtained hsigs) (hobtained hsigs') hlists)
  simp only [step, hsigs, hsigs']
  cases hlists with
  | nil => rfl
  | cons _ _ => exact congrArg Answer.written hsum

end PairingSig.KeyRing
