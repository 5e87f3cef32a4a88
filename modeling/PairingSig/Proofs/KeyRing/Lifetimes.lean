import PairingSig.Proofs.Groups.Exponents
import PairingSig.Proofs.Groups.Membership
import PairingSig.Proofs.Key.Generation
import PairingSig.Proofs.KeyRing.Steps

/-!
# What the values of a ring are worth

Private keys are scalars other than zero until they are wiped. A wiped key is all zeros, and so is a
copy that is made of it afterwards; copies made before, and what was derived before, stay as they
are. What comes of a wiped key is harmless: its public key is the identity, which every reader
refuses, and its signatures are signatures.

- **Histories**: `Wiped` and `DerivedFromWiped` tell from the steps of a run which keys these are;
- **Values**: `privateKey_after`, `publicKey_after` and `signature_after`, by induction on the run;
- **Runs**: `run_values`.
-/

namespace PairingSig.KeyRing

variable {G : PairingGroups} {steps : List Step} {s : Step} {name : String}

/-! ## Histories -/

variable (G) in
/-- After a run, the private key under a name has been wiped, or it is a copy of a key that had been
wiped when it was copied. -/
inductive Wiped : List Step → String → Prop where
  /-- The last step wiped it. -/
  | wiped {steps : List Step} {key : String} {x : PrivateKey} :
      (after G steps).privateKeys.lookup key = some x → Wiped (steps ++ [.wipe key]) key
  /-- The last step copied it from a wiped key. -/
  | copied {steps : List Step} {key out : String} {x : PrivateKey} :
      (after G steps).privateKeys.lookup key = some x → Wiped steps key →
        Wiped (steps ++ [.copyPrivateKey key out]) out
  /-- The last step left it alone. -/
  | kept {steps : List Step} {s : Step} {name : String} :
      (∀ x, (after G steps).newPrivateKey? s ≠ some (name, x)) → Wiped steps name →
        Wiped (steps ++ [s]) name

variable (G) in
/-- After a run, the public key under a name comes from a private key that had been wiped. -/
inductive DerivedFromWiped : List Step → String → Prop where
  /-- The last step derived it. -/
  | derived {steps : List Step} {key out : String} {x : PrivateKey} :
      (after G steps).privateKeys.lookup key = some x → Wiped G steps key →
        DerivedFromWiped (steps ++ [.derivePublicKey key out]) out
  /-- The last step left it alone. -/
  | kept {steps : List Step} {s : Step} {name : String} :
      (∀ k, (after G steps).newPublicKey? s ≠ some (name, k)) → DerivedFromWiped steps name →
        DerivedFromWiped (steps ++ [s]) name

/-- How the last step of a run can have left a wiped key under a name. -/
theorem Wiped.last (h : Wiped G (steps ++ [s]) name) :
    (s = .wipe name ∧ ∃ x, (after G steps).privateKeys.lookup name = some x) ∨
    (∃ key x, s = .copyPrivateKey key name ∧ (after G steps).privateKeys.lookup key = some x ∧
      Wiped G steps key) ∨
    ((∀ x, (after G steps).newPrivateKey? s ≠ some (name, x)) ∧ Wiped G steps name) := by
  -- Each rule is about a run of its own, which has the same last step.
  generalize ht : steps ++ [s] = t at h
  cases h with
  | wiped hx =>
    obtain ⟨rfl, hs⟩ := List.append_inj' ht rfl
    exact .inl ⟨List.singleton_inj.1 hs, _, hx⟩
  | copied hx hw =>
    obtain ⟨rfl, hs⟩ := List.append_inj' ht rfl
    exact .inr (.inl ⟨_, _, List.singleton_inj.1 hs, hx, hw⟩)
  | kept hnew hw =>
    obtain ⟨rfl, hs⟩ := List.append_inj' ht rfl
    obtain rfl := List.singleton_inj.1 hs
    exact .inr (.inr ⟨hnew, hw⟩)

theorem DerivedFromWiped.last (h : DerivedFromWiped G (steps ++ [s]) name) :
    (∃ key x, s = .derivePublicKey key name ∧ (after G steps).privateKeys.lookup key = some x ∧
      Wiped G steps key) ∨
    ((∀ k, (after G steps).newPublicKey? s ≠ some (name, k)) ∧ DerivedFromWiped G steps name) := by
  generalize ht : steps ++ [s] = t at h
  cases h with
  | derived hx hw =>
    obtain ⟨rfl, hs⟩ := List.append_inj' ht rfl
    exact .inl ⟨_, _, List.singleton_inj.1 hs, hx, hw⟩
  | kept hnew hd =>
    obtain ⟨rfl, hs⟩ := List.append_inj' ht rfl
    obtain rfl := List.singleton_inj.1 hs
    exact .inr ⟨hnew, hd⟩

theorem wiped_concat_of_new {x : PrivateKey}
    (hnew : (after G steps).newPrivateKey? s = some (name, x)) :
    Wiped G (steps ++ [s]) name ↔
      s = .wipe name ∨ ∃ key, s = .copyPrivateKey key name ∧ Wiped G steps key := by
  constructor
  -- A step that put a key under the name did not leave it alone.
  · intro h
    obtain ⟨hs, -⟩ | ⟨key, -, hs, -, hw⟩ | ⟨hkept, -⟩ := h.last
    · exact .inl hs
    · exact .inr ⟨key, hs, hw⟩
    · exact absurd hnew (hkept x)
  -- Wiping and copying put a key under the name only if there is a key to wipe or to copy.
  · rintro (rfl | ⟨key, rfl, hw⟩)
    · obtain ⟨y, hy, -⟩ := Option.map_eq_some_iff.1 hnew
      exact .wiped hy
    · obtain ⟨y, hy, -⟩ := Option.map_eq_some_iff.1 hnew
      exact .copied hy hw

theorem wiped_concat_of_kept (hkept : ∀ x, (after G steps).newPrivateKey? s ≠ some (name, x)) :
    Wiped G (steps ++ [s]) name ↔ Wiped G steps name := by
  refine ⟨fun h => ?_, .kept hkept⟩
  -- Wiping an existing key or copying one would have put a key under the name.
  obtain ⟨rfl, x, hx⟩ | ⟨key, x, rfl, hx, -⟩ | ⟨-, hw⟩ := h.last
  · exact absurd (by rw [newPrivateKey?, hx]; rfl) (hkept .wiped)
  · exact absurd (by rw [newPrivateKey?, hx]; rfl) (hkept x)
  · exact hw

theorem derivedFromWiped_concat_of_new {k : PublicKey G}
    (hnew : (after G steps).newPublicKey? s = some (name, k)) :
    DerivedFromWiped G (steps ++ [s]) name ↔
      ∃ key, s = .derivePublicKey key name ∧ Wiped G steps key := by
  constructor
  · intro h
    obtain ⟨key, -, hs, -, hw⟩ | ⟨hkept, -⟩ := h.last
    · exact ⟨key, hs, hw⟩
    · exact absurd hnew (hkept k)
  · rintro ⟨key, rfl, hw⟩
    obtain ⟨y, hy, -⟩ := Option.map_eq_some_iff.1 hnew
    exact .derived hy hw

theorem derivedFromWiped_concat_of_kept
    (hkept : ∀ k, (after G steps).newPublicKey? s ≠ some (name, k)) :
    DerivedFromWiped G (steps ++ [s]) name ↔ DerivedFromWiped G steps name := by
  refine ⟨fun h => ?_, .kept hkept⟩
  obtain ⟨key, x, rfl, hx, -⟩ | ⟨-, hd⟩ := h.last
  · exact absurd (by rw [newPublicKey?, hx]; rfl) (hkept (x.publicKey G))
  · exact hd

/-! ## Values -/

/-- A private key has been wiped, or is a copy of a wiped one, or its scalar is not zero. -/
theorem privateKey_after {x : PrivateKey}
    (h : (after G steps).privateKeys.lookup name = some x) :
    Wiped G steps name ∧ x = .wiped ∨ ¬ Wiped G steps name ∧ 0 < Bytes.toNat x.encode := by
  induction steps using List.reverseRecOn generalizing name x with
  | nil => cases h
  | append_singleton steps s ih =>
    rw [after_concat, ring_step, lookup_new_append] at h
    obtain hnew | ⟨hkept, hold⟩ := h
    -- The last step put the key there: one case for each step that puts private keys.
    · rw [wiped_concat_of_new hnew]
      cases s with
      | generate seed out =>
        obtain ⟨hx, rfl⟩ := toOption_map_eq_some hnew
        have hread := KeyGeneration.decode_generate hx
        exact .inr ⟨by simp, ((PrivateKey.decode_eq_ok_iff _ _).1 hread).2⟩
      | readPrivateKey written out =>
        obtain ⟨hx, rfl⟩ := toOption_map_eq_some hnew
        obtain ⟨rfl, hpos⟩ := (PrivateKey.decode_eq_ok_iff _ _).1 hx
        exact .inr ⟨by simp, hpos⟩
      | copyPrivateKey key out =>
        -- The copy is worth what the key is worth.
        obtain ⟨y, hy, heq⟩ := Option.map_eq_some_iff.1 hnew
        cases heq
        simpa using ih hy
      | wipe key =>
        obtain ⟨y, -, heq⟩ := Option.map_eq_some_iff.1 hnew
        cases heq
        exact .inl ⟨.inl rfl, rfl⟩
      | _ => cases hnew
    -- The last step left it alone, and so it is worth what it was.
    · rw [wiped_concat_of_kept hkept]
      exact ih hold

/-- A public key is that of a wiped private key, or it is in the group and not the identity. -/
theorem publicKey_after {k : PublicKey standardGroups}
    (h : (after standardGroups steps).publicKeys.lookup name = some k) :
    DerivedFromWiped standardGroups steps name ∧ k = PrivateKey.wiped.publicKey standardGroups ∨
      ¬ DerivedFromWiped standardGroups steps name ∧ k.Member := by
  induction steps using List.reverseRecOn generalizing name k with
  | nil => cases h
  | append_singleton steps s ih =>
    rw [after_concat, ring_step, lookup_new_append] at h
    obtain hnew | ⟨hkept, hold⟩ := h
    · rw [derivedFromWiped_concat_of_new hnew]
      cases s with
      | derivePublicKey key out =>
        obtain ⟨x, hx, heq⟩ := Option.map_eq_some_iff.1 hnew
        cases heq
        -- The key is worth what the private key was worth at this step.
        obtain ⟨hw, rfl⟩ | ⟨hw, hpos⟩ := privateKey_after hx
        · exact .inl ⟨⟨key, rfl, hw⟩, rfl⟩
        · exact .inr ⟨by simpa using hw, PrivateKey.member_publicKey hpos⟩
      | readPublicKey written out =>
        obtain ⟨hk, rfl⟩ := toOption_map_eq_some hnew
        exact .inr ⟨by simp, PublicKey.member_of_decode hk⟩
      | _ => cases hnew
    · rw [derivedFromWiped_concat_of_kept hkept]
      exact ih hold

/-- Every signature is in the group, if the messages that are signed are hashed into it. -/
theorem signature_after
    (hhash : ∀ key message out, Step.sign key message out ∈ steps →
      Point.InGroup (HashToCurve.hash message))
    {t : Signature standardGroups}
    (h : (after standardGroups steps).signatures.lookup name = some t) : t.Member := by
  induction steps using List.reverseRecOn generalizing name t with
  | nil => cases h
  | append_singleton steps s ih =>
    -- What was signed before is among what the whole run signs.
    have hbefore : ∀ {name t}, (after standardGroups steps).signatures.lookup name = some t →
        t.Member :=
      ih fun key message out hs => hhash key message out (List.mem_append_left _ hs)
    rw [after_concat, ring_step, lookup_new_append] at h
    obtain hnew | ⟨-, hold⟩ := h
    · cases s with
      | sign key message out =>
        obtain ⟨x, -, heq⟩ := Option.map_eq_some_iff.1 hnew
        cases heq
        have hlast := hhash key message _ (List.mem_append_right _ List.mem_cons_self)
        exact Signature.member_sign hlast x
      | readSignature written out =>
        obtain ⟨ht, rfl⟩ := toOption_map_eq_some hnew
        exact Signature.member_of_decode ht
      | aggregate names out =>
        obtain ⟨sigs, hsigs, hnew⟩ := Option.bind_eq_some_iff.1 hnew
        obtain ⟨ht, rfl⟩ := toOption_map_eq_some hnew
        -- All that is added up stood in the ring before.
        refine Signature.member_aggregate (fun u hu => ?_) ht
        obtain ⟨summand, hsummand⟩ := exists_lookup_of_mapM hsigs hu
        exact hbefore hsummand
      | _ => cases hnew
    · exact hbefore hold

/-! ## Runs -/

/-- Wiping a key leaves every other value alone. -/
theorem ring_step_wipe (r : KeyRing G) (key : String) :
    (∀ name, name ≠ key →
      (r.step (.wipe key)).2.privateKeys.lookup name = r.privateKeys.lookup name) ∧
      (r.step (.wipe key)).2.publicKeys = r.publicKeys ∧
        (r.step (.wipe key)).2.signatures = r.signatures := by
  rw [r.ring_step (.wipe key)]
  refine ⟨fun name hne => ?_, rfl, rfl⟩
  rw [newPrivateKey?]
  cases r.privateKeys.lookup key with
  | none => rfl
  | some x => exact by simp [List.lookup_cons, beq_false_of_ne hne]

/-- **What the values of a ring are worth** after any run. A private key is all zeros exactly if it
has been wiped or copied from a wiped one; any other is read back from its 32 bytes. A public key is
read back as itself, unless it was derived from a wiped key; then it is written as the identity,
refused by the reader, and verifies nothing. A signature is read back as itself, whatever key it is
from. Wiping a key leaves every other value alone. -/
theorem run_values
    (hhash : ∀ key message out, Step.sign key message out ∈ steps →
      Point.InGroup (HashToCurve.hash message)) :
    let r := after standardGroups steps
    (∀ name x, r.privateKeys.lookup name = some x →
      (x.encode = List.replicate 32 0 ↔ Wiped standardGroups steps name) ∧
      (x.encode ≠ List.replicate 32 0 →
        x.encode.length = 32 ∧ 0 < Bytes.toNat x.encode ∧ Bytes.toNat x.encode < groupOrder ∧
          PrivateKey.decode x.encode = .ok x)) ∧
    (∀ name k, r.publicKeys.lookup name = some k →
      (¬ DerivedFromWiped standardGroups steps name →
        ∃ k' : PublicKey standardGroups, PublicKey.decode k.encode = .ok k' ∧ (k' == k) = true) ∧
      (DerivedFromWiped standardGroups steps name →
        k.encode = 0xc0 :: List.replicate 47 0 ∧
          (PublicKey.decode k.encode : Except Fault (PublicKey standardGroups)) =
            .error (.point .identityPublicKey) ∧
          ∀ message s, k.verifies message s = false)) ∧
    (∀ name s, r.signatures.lookup name = some s →
      ∃ s' : Signature standardGroups, Signature.decode s.encode = .ok s' ∧ (s' == s) = true) ∧
    ∀ key, let r' := (r.step (.wipe key)).2
      (∀ name, name ≠ key → r'.privateKeys.lookup name = r.privateKeys.lookup name) ∧
        r'.publicKeys = r.publicKeys ∧ r'.signatures = r.signatures := by
  intro r
  refine ⟨fun name x hx => ?_, fun name k hk => ?_, fun name s hs => ?_, r.ring_step_wipe⟩
  -- Private keys: the scalar of a key that was not wiped is not zero, nor are its bytes.
  · obtain ⟨hw, rfl⟩ | ⟨hw, hpos⟩ := privateKey_after hx
    · exact ⟨iff_of_true rfl hw, fun hne => absurd rfl hne⟩
    · have hne : x.encode ≠ List.replicate 32 0 := fun hzero =>
        Nat.ne_of_gt hpos ((congrArg Bytes.toNat hzero).trans PrivateKey.toNat_encode_wiped)
      exact ⟨iff_of_false hne hw, fun _ => ⟨x.length_encode, hpos, x.toNat_bytes_lt,
        (PrivateKey.decode_eq_ok_iff _ _).2 ⟨rfl, hpos⟩⟩⟩
  -- Public keys: the identity comes of wiped keys only.
  · obtain ⟨hd, rfl⟩ | ⟨hd, hmember⟩ := publicKey_after hk
    · exact ⟨fun hn => absurd hd hn, fun _ =>
        PublicKey.refused_of_isIdentity PrivateKey.isIdentity_publicKey_wiped⟩
    · exact ⟨fun _ => hmember.exists_decode, fun hn => absurd hn hd⟩
  -- Signatures: the identity is no exception.
  · exact (signature_after hhash hs).exists_decode

/-! ## A sample -/

/-- A key is wiped after a copy was made of it, and then it signs. -/
def sampleSteps : List Step :=
  [.readPrivateKey sampleSigner.encode "key", .copyPrivateKey "key" "copy", .wipe "key",
    .sign "key" [] "signature"]

theorem after_sampleSteps :
    after G sampleSteps =
      ⟨[("key", .wiped), ("copy", sampleSigner), ("key", sampleSigner)], [],
        [("signature", PrivateKey.wiped.sign G [])]⟩ := by
  simp [after, sampleSteps, run, step, decode_sampleSigner, keepPrivateKey, keepSignature,
    putPrivateKey, putSignature, empty, List.lookup_cons]

theorem wiped_sampleSteps : Wiped G sampleSteps "key" := by
  have hread : (after G [.readPrivateKey sampleSigner.encode "key",
      .copyPrivateKey "key" "copy"]).privateKeys.lookup "key" = some sampleSigner := by
    simp [after, run, step, decode_sampleSigner, keepPrivateKey, putPrivateKey, empty,
      List.lookup_cons]
  have hwiped := Wiped.wiped hread
  exact hwiped.kept (by simp [newPrivateKey?])

theorem run_values_sampleSteps :
    let steps := sampleSteps ++ [.derivePublicKey "key" "public"]
    let r := after standardGroups steps
    (∀ key message out, Step.sign key message out ∈ steps →
      Point.InGroup (HashToCurve.hash message)) ∧
    (∃ x, r.privateKeys.lookup "copy" = some x ∧ ¬ Wiped standardGroups steps "copy" ∧
      PrivateKey.decode x.encode = .ok x) ∧
    (∃ k, r.publicKeys.lookup "public" = some k ∧ DerivedFromWiped standardGroups steps "public" ∧
      (PublicKey.decode k.encode : Except Fault (PublicKey standardGroups)) =
        .error (.point .identityPublicKey)) ∧
    ∃ s, r.signatures.lookup "signature" = some s ∧
      ∃ s' : Signature standardGroups, Signature.decode s.encode = .ok s' ∧ (s' == s) = true := by
  intro steps r
  have hhash : ∀ key message out, Step.sign key message out ∈ steps →
      Point.InGroup (HashToCurve.hash message) := by
    intro key message out h
    obtain ⟨-, rfl, -⟩ : key = "key" ∧ message = [] ∧ out = "signature" := by
      simpa [steps, sampleSteps] using h
    exact inGroup_hash_nil
  -- The ring that is left behind, and what stands in it under the names.
  have hr : r = ⟨[("key", .wiped), ("copy", sampleSigner), ("key", sampleSigner)],
      [("public", PrivateKey.wiped.publicKey standardGroups)],
      [("signature", PrivateKey.wiped.sign standardGroups [])]⟩ := by
    simp only [r, steps, after_concat, after_sampleSteps]
    rfl
  have hcopy : r.privateKeys.lookup "copy" = some sampleSigner := by
    rw [hr]
    simp [List.lookup_cons]
  have hpublic :
      r.publicKeys.lookup "public" = some (PrivateKey.wiped.publicKey standardGroups) := by
    rw [hr]
    simp
  have hsignature :
      r.signatures.lookup "signature" = some (PrivateKey.wiped.sign standardGroups []) := by
    rw [hr]
    simp
  have hderived : DerivedFromWiped standardGroups steps "public" := by
    refine .derived (x := .wiped) ?_ wiped_sampleSteps
    rw [after_sampleSteps]
    simp
  have hne : sampleSigner.encode ≠ List.replicate 32 0 := by decide +kernel
  obtain ⟨hprivates, hpublics, hsignatures, -⟩ := run_values hhash
  obtain ⟨hwiped, hread⟩ := hprivates "copy" sampleSigner hcopy
  exact ⟨hhash, ⟨_, hcopy, fun hw => hne (hwiped.2 hw), (hread hne).2.2.2⟩,
    ⟨_, hpublic, hderived, ((hpublics "public" _ hpublic).2 hderived).2.1⟩,
    ⟨_, hsignature, hsignatures "signature" _ hsignature⟩⟩

end PairingSig.KeyRing
