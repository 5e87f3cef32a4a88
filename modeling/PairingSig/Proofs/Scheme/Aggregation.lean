import PairingSig.Proofs.Groups.Exponents
import PairingSig.Proofs.Scheme.Results
import PairingSig.Proofs.Scheme.Signers
import PairingSig.Proofs.Traversal

/-!
# Exact acceptance of an aggregate

Several signers sign a message each, and their signatures are added up. For messages with pairwise
distinct points, aggregate verification under the signers' public keys accepts one byte string: the
written sum. Keys may repeat, signatures may cancel each other, and the sum may be the identity.

- **Reading what signers write**: `exists_signers`, `decode_publicKeys`, `decode_signatures`;
- **The sum**: `aggregate_signatures`;
- **Exact acceptance**: `aggregateVerify_signers`.
-/

namespace PairingSig.Scheme

variable {G : PairingGroups} {A₁ A₂ T : Type} [AddCommGroup A₁] [AddCommGroup A₂] [AddCommGroup T]

/-! ## Reading what signers write -/

/-- A written private key and a message are those of a signer. -/
structure ReadAs (written : Bytes × Bytes) (signer : PrivateKey × Bytes) : Prop where
  key : PrivateKey.decode written.1 = .ok signer.1
  message : written.2 = signer.2

theorem exists_signers {written : List (Bytes × Bytes)}
    (h : ∀ w ∈ written, ∃ x, PrivateKey.decode w.1 = .ok x) :
    ∃ signers, List.Forall₂ ReadAs written signers := by
  apply exists_forall₂
  intro w hw
  obtain ⟨x, hx⟩ := h w hw
  exact ⟨(x, w.2), hx, rfl⟩

theorem messages_eq {written : List (Bytes × Bytes)} {signers : List (PrivateKey × Bytes)}
    (h : List.Forall₂ ReadAs written signers) : written.map Prod.snd = signers.map Prod.snd := by
  induction h with
  | nil => rfl
  | cons hw _ ih => rw [List.map_cons, List.map_cons, hw.message, ih]

theorem derive_signers {written : List (Bytes × Bytes)} {signers : List (PrivateKey × Bytes)}
    (h : List.Forall₂ ReadAs written signers) :
    (written.mapM fun w => (derivePublicKey G w.1).result) =
      .ok (signers.map fun x => (x.1.publicKey G).encode) := by
  apply mapM_eq_ok
  rw [List.forall₂_map_right_iff]
  exact h.imp fun w x hw => derivePublicKey_of_decode hw.key

theorem sign_signers {written : List (Bytes × Bytes)} {signers : List (PrivateKey × Bytes)}
    (h : List.Forall₂ ReadAs written signers) :
    (written.mapM fun w => (sign G w.1 w.2).result) =
      .ok (signers.map fun x => (x.1.sign G x.2).encode) := by
  apply mapM_eq_ok
  rw [List.forall₂_map_right_iff]
  refine h.imp fun w x hw => ?_
  rw [← hw.message]
  exact sign_of_decode hw.key w.2

/-- The written public keys of signers are read as derived keys. -/
theorem decode_publicKeys (I : G.Interpretation A₁ A₂ T) {written : List (Bytes × Bytes)}
    {signers : List (PrivateKey × Bytes)} (h : List.Forall₂ ReadAs written signers) :
    ∃ keys : List (PublicKey G),
      (signers.map fun x => (x.1.publicKey G).encode).mapM PublicKey.decode = .ok keys ∧
        List.Forall₂ (fun x k => Derived I x.1 k) signers keys := by
  -- Each signer's private key was read, so each public key can be read.
  have hkey : ∀ x ∈ signers, ∃ k : PublicKey G,
      PublicKey.decode (x.1.publicKey G).encode = .ok k ∧ Derived I x.1 k := by
    induction h with
    | nil => exact List.forall_mem_nil _
    | cons hw _ ih => exact List.forall_mem_cons.2 ⟨exists_derived I hw.key, ih⟩
  obtain ⟨keys, hkeys⟩ := exists_forall₂ hkey
  refine ⟨keys, mapM_eq_ok ?_, hkeys.imp fun x k hk => hk.2⟩
  rw [List.forall₂_map_left_iff]
  exact hkeys.imp fun x k hk => hk.1

/-! ## The sum -/

/-- Signatures that are written and read again stand for the same elements. -/
theorem decode_signatures (I : G.Interpretation A₁ A₂ T) {sigs : List (Signature G)}
    (hs : ∀ s ∈ sigs, s.Proper I) :
    ∃ sigs' : List (Signature G), (sigs.map Signature.encode).mapM Signature.decode = .ok sigs' ∧
      (∀ s ∈ sigs', s.Proper I) ∧ sigs'.map (Signature.value I) = sigs.map (Signature.value I) := by
  induction sigs with
  | nil => exact ⟨[], rfl, List.forall_mem_nil _, rfl⟩
  | cons s rest ih =>
    obtain ⟨hproper, hrest⟩ := List.forall_mem_cons.1 hs
    -- What is read may be another point of the groups, but of the same element.
    obtain ⟨s', hs', hproper', hvalue⟩ := Signature.decode_encode hproper
    obtain ⟨rest', hrest', hpropers, hvalues⟩ := ih hrest
    refine ⟨s' :: rest', ?_, List.forall_mem_cons.2 ⟨hproper', hpropers⟩, ?_⟩
    · rw [List.map_cons, mapM_cons_ok hs', hrest']
      rfl
    · rw [List.map_cons, List.map_cons, hvalue, hvalues]

/-- **Written signatures add up**, whatever their sum is: the aggregate of at least one of them is
written for the sum of the elements. -/
theorem aggregate_signatures (I : G.Interpretation A₁ A₂ T) {sigs : List (Signature G)}
    (hne : sigs ≠ []) (hs : ∀ s ∈ sigs, s.Proper I) :
    ∃ σ : Signature G, (aggregate G (sigs.map Signature.encode)).result = .ok σ.encode ∧
      σ.Proper I ∧ σ.value I = (sigs.map (Signature.value I)).sum := by
  obtain ⟨sigs', hread, hpropers, hvalues⟩ := decode_signatures I hs
  have hne' : sigs' ≠ [] := by
    rintro rfl
    exact hne (List.map_eq_nil_iff.1 hvalues.symm)
  refine ⟨Signature.sum sigs', aggregate_of_decode hread hne', Signature.proper_sum hpropers, ?_⟩
  rw [Signature.value_sum hpropers, hvalues]

/-! ## Exact acceptance -/

/-- Aggregate verification under derived keys is the reading of a signature and the test. -/
theorem result_aggregateVerify_derived {publicKeys messages : List Bytes}
    {keys : List (PublicKey G)} (hkeys : publicKeys.mapM PublicKey.decode = .ok keys)
    (hne : keys ≠ []) (hlength : keys.length = messages.length) (hnodup : messages.Nodup)
    (signature : Bytes) :
    (aggregateVerify G publicKeys messages signature).result = (do
      let s ← Signature.decode signature
      if s.holdsFor messages keys then .ok () else .error .signatureRejected) := by
  rw [result_aggregateVerify, hkeys]
  show (Signature.decode signature >>= fun s => (verifyDistinct keys messages s).result) = _
  exact congrArg _ (funext fun s => result_verifyDistinct hne hlength hnodup s)

/-- **Exact acceptance of aggregates.** Let at least one signer be given by a written private key
and a message each, no two of the messages having the same point. Then all public keys can be
derived, all messages can be signed and the signatures add up, and aggregate verification accepts,
of all byte strings, the written sum alone. -/
theorem aggregateVerify_signers (I : G.Interpretation A₁ A₂ T) {written : List (Bytes × Bytes)}
    (hne : written ≠ []) (hkeys : ∀ w ∈ written, ∃ x, PrivateKey.decode w.1 = .ok x)
    (hdistinct : (written.map fun w => I.signatures.value (G.hash w.2)).Nodup) :
    ∃ publicKeys signatures sum,
      (written.mapM fun w => (derivePublicKey G w.1).result) = .ok publicKeys ∧
      (written.mapM fun w => (sign G w.1 w.2).result) = .ok signatures ∧
      (aggregate G signatures).result = .ok sum ∧ sum.length = signatureLength ∧
      AcceptsOnly G sum
        fun s => (aggregateVerify G publicKeys (written.map Prod.snd) s).result := by
  obtain ⟨signers, hsigners⟩ := exists_signers hkeys
  obtain ⟨keys, hread, hderived⟩ := decode_publicKeys I hsigners
  have hmessages := messages_eq hsigners
  have hsignersne : signers ≠ [] := (ne_nil_iff_of_forall₂ hsigners).1 hne
  -- The signatures add up, whatever their sum is.
  obtain ⟨σ, hsum, hproper, hvalue⟩ := aggregate_signatures I
    (mt List.map_eq_nil_iff.1 hsignersne) (proper_signatures I signers)
  rw [List.map_map] at hsum hvalue
  have hpoints : (signers.map fun x => I.signatures.value (G.hash x.2)).Nodup := by
    have h := congrArg (List.map fun m => I.signatures.value (G.hash m)) hmessages
    rw [List.map_map, List.map_map] at h
    exact h ▸ hdistinct
  have hkeysne : keys ≠ [] := (ne_nil_iff_of_forall₂ hderived).1 hsignersne
  refine ⟨_, _, σ.encode, derive_signers hsigners, sign_signers hsigners, hsum,
    Signature.length_encode hproper, ?_⟩
  rw [hmessages]
  -- What is left of verification is the test, which the sum alone passes.
  refine acceptsOnly_of_test hproper (fun t ht => ?_)
    (result_aggregateVerify_derived hread hkeysne (length_derived hderived)
      (nodup_messages hpoints))
  rw [holdsFor_derived_iff hderived ht, hvalue]
  constructor
  · rintro ⟨-, -, h⟩
    exact h
  · exact fun h => ⟨hsignersne, hpoints, h⟩

theorem aggregateVerify_signers_sample :
    let written : List (Bytes × Bytes) := [(sampleSigner.encode, []), (sampleSigner.encode, [1])]
    written ≠ [] ∧ (∀ w ∈ written, ∃ x, PrivateKey.decode w.1 = .ok x) ∧
    (written.map fun w => sampleInterpretation.signatures.value (sampleGroups.hash w.2)).Nodup ∧
    ∃ publicKeys signatures sum,
      (written.mapM fun w => (derivePublicKey sampleGroups w.1).result) = .ok publicKeys ∧
      (written.mapM fun w => (sign sampleGroups w.1 w.2).result) = .ok signatures ∧
      (aggregate sampleGroups signatures).result = .ok sum ∧ sum.length = signatureLength ∧
      AcceptsOnly sampleGroups sum
        fun s => (aggregateVerify sampleGroups publicKeys (written.map Prod.snd) s).result := by
  intro written
  have hne : written ≠ [] := List.cons_ne_nil _ _
  have hkeys : ∀ w ∈ written, ∃ x, PrivateKey.decode w.1 = .ok x := by
    intro w hw
    refine ⟨sampleSigner, ?_⟩
    simp only [written, List.mem_cons, List.not_mem_nil, or_false] at hw
    obtain rfl | rfl := hw <;> exact decode_sampleSigner
  have hdistinct :
      (written.map fun w =>
        sampleInterpretation.signatures.value (sampleGroups.hash w.2)).Nodup := by
    show [((Bytes.toNat [] : ZMod groupOrder) + 1), ((Bytes.toNat [1] : ZMod groupOrder) + 1)].Nodup
    decide +kernel
  exact ⟨hne, hkeys, hdistinct, aggregateVerify_signers sampleInterpretation hne hkeys hdistinct⟩

end PairingSig.Scheme
