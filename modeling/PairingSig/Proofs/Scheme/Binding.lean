import PairingSig.Proofs.Scheme.Aggregation
import PairingSig.Proofs.Scheme.Precedence
import PairingSig.Proofs.Verifier.Refinement

/-!
# Accepted aggregates bind their signers

The equation of pairings has one term for each signer. When it holds, and the points of the messages
are not zero, it holds no longer after one key is replaced by another or a signer is left out.

- **Terms**: `pairings` lists the terms; `sum_pairings_split` takes one of them out of the sum;
- **The test**: `value_eq_of_holdsFor_set` and `not_holdsFor_eraseIdx`;
- **Acceptance**: `Accepts` is what accepting an aggregate comes to, and `AggregateVerifier` are the
  operations that answer alike, with and without a cache;
- **Binding**: `aggregate_binds_signers`.
-/

namespace PairingSig.Scheme

variable {G : PairingGroups} {A₁ A₂ T : Type} [AddCommGroup A₁] [AddCommGroup A₂] [AddCommGroup T]
  (I : G.Interpretation A₁ A₂ T)

/-! ## Terms -/

/-- The pairings of keys with the points of their messages. -/
def pairings (keys : List (PublicKey G)) (messages : List Bytes) : List T :=
  (keys.zip messages).map fun km => I.pairing (km.1.value I) (I.signatures.value (G.hash km.2))

theorem zip_eraseIdx {α β : Type} (as : List α) (bs : List β) (i : Nat) :
    (as.zip bs).eraseIdx i = (as.eraseIdx i).zip (bs.eraseIdx i) := by
  induction as generalizing bs i with
  | nil => rfl
  | cons a as ih =>
    cases bs with
    | nil => rw [List.eraseIdx_nil, List.zip_nil_right, List.zip_nil_right, List.eraseIdx_nil]
    | cons b bs =>
      cases i with
      | zero => rfl
      | succ i =>
        simp only [List.zip_cons_cons, List.eraseIdx_cons_succ, ih]

/-- One term taken out of the sum. -/
theorem sum_pairings_split {keys : List (PublicKey G)} {messages : List Bytes} {i : Nat}
    (hk : i < keys.length) (hm : i < messages.length) :
    I.pairing (keys[i].value I) (I.signatures.value (G.hash messages[i])) +
        (pairings I (keys.eraseIdx i) (messages.eraseIdx i)).sum =
      (pairings I keys messages).sum := by
  have hlt : i < (pairings I keys messages).length := by
    rw [pairings, List.length_map, List.length_zip]
    exact lt_min hk hm
  -- The pairings without one of them are those of the lists without their elements there.
  have hterm : (pairings I keys messages)[i] =
      I.pairing (keys[i].value I) (I.signatures.value (G.hash messages[i])) := by
    simp only [pairings, List.getElem_map, List.getElem_zip]
  have hrest : (pairings I keys messages).eraseIdx i =
      pairings I (keys.eraseIdx i) (messages.eraseIdx i) := by
    rw [pairings, List.eraseIdx_map, zip_eraseIdx, pairings]
  rw [← hterm, ← hrest]
  exact List.add_sum_eraseIdx hlt fun _ _ => AddCommute.all _ _

variable {I}

/-! ## The test -/

section Test

variable {s : Signature G} {keys : List (PublicKey G)} {messages : List Bytes} {i : Nat}

/-- A signature that passes the test makes the equation of pairings hold. -/
theorem pairing_eq_of_holdsFor (hs : s.Proper I) (hkeys : ∀ k ∈ keys, k.Valid I)
    (h : s.holdsFor messages keys = true) :
    I.pairing (I.keys.value G.generator) (s.value I) = (pairings I keys messages).sum :=
  ((Signature.holdsFor_iff hs hkeys messages).1 h).2.2.2

theorem valid_set (hkeys : ∀ k ∈ keys, k.Valid I) {k : PublicKey G} (hk : k.Valid I) :
    ∀ l ∈ keys.set i k, l.Valid I := by
  intro l hl
  obtain hl | rfl := List.mem_or_eq_of_mem_set hl
  · exact hkeys l hl
  · exact hk

/-- The test is passed under one key at most at each place. -/
theorem value_eq_of_holdsFor_set (hs : s.Proper I) (hkeys : ∀ k ∈ keys, k.Valid I)
    {k : PublicKey G} (hk : k.Valid I) (hi : i < keys.length) (him : i < messages.length)
    (hpoint : I.signatures.value (G.hash messages[i]) ≠ 0)
    (hold : s.holdsFor messages keys = true)
    (hnew : s.holdsFor messages (keys.set i k) = true) : keys[i].value I = k.value I := by
  -- The two sums differ in one term, and there the key is told apart by the pairing.
  have hsum := pairing_eq_of_holdsFor hs hkeys hold
  rw [pairing_eq_of_holdsFor hs (valid_set hkeys hk) hnew,
    ← sum_pairings_split I (by rwa [List.length_set]) him, ← sum_pairings_split I hi him,
    List.eraseIdx_set_eq, List.getElem_set_self, add_left_inj, ← sub_eq_zero,
    ← AddMonoidHom.sub_apply, ← map_sub] at hsum
  exact (sub_eq_zero.1 (I.eq_zero_of_pairing_eq_zero hpoint hsum)).symm

/-- The test is not passed without one of the signers. -/
theorem not_holdsFor_eraseIdx (hs : s.Proper I) (hkeys : ∀ k ∈ keys, k.Valid I)
    (hi : i < keys.length) (him : i < messages.length)
    (hpoint : I.signatures.value (G.hash messages[i]) ≠ 0)
    (hold : s.holdsFor messages keys = true) :
    ¬ s.holdsFor (messages.eraseIdx i) (keys.eraseIdx i) = true := by
  intro hnew
  have hrest : ∀ k ∈ keys.eraseIdx i, k.Valid I := fun k hk => hkeys k (List.mem_of_mem_eraseIdx hk)
  -- The term left out would be zero, but neither the key nor the point is.
  have hsum := pairing_eq_of_holdsFor hs hkeys hold
  rw [pairing_eq_of_holdsFor hs hrest hnew, ← sum_pairings_split I hi him, right_eq_add] at hsum
  exact (hkeys _ (List.getElem_mem hi)).value_ne_zero (I.eq_zero_of_pairing_eq_zero hpoint hsum)

end Test

/-! ## Acceptance -/

/-- What it comes to that an aggregate is accepted. -/
structure Accepts (publicKeys messages : List Bytes) (signature : Bytes)
    (keys : List (PublicKey G)) (s : Signature G) : Prop where
  keys_read : publicKeys.map PublicKey.decode = keys.map .ok
  signature_read : Signature.decode signature = .ok s
  ne_nil : keys ≠ []
  length_eq : keys.length = messages.length
  nodup : messages.Nodup
  holds : s.holdsFor messages keys = true

section

variable {publicKeys messages : List Bytes} {signature : Bytes} {keys : List (PublicKey G)}
  {s : Signature G}

theorem Accepts.length_publicKeys (h : Accepts publicKeys messages signature keys s) :
    publicKeys.length = keys.length :=
  (ReadInputs.length_eq ⟨h.keys_read, h.signature_read⟩).symm

theorem Accepts.decode_getElem (h : Accepts publicKeys messages signature keys s) {i : Nat}
    (hi : i < publicKeys.length) (hik : i < keys.length) :
    PublicKey.decode publicKeys[i] = .ok keys[i] := by
  have hmap := List.getElem_of_eq h.keys_read (by rwa [List.length_map])
  rwa [List.getElem_map, List.getElem_map] at hmap

theorem Accepts.valid (h : Accepts publicKeys messages signature keys s) :
    ∀ k ∈ keys, k.Valid I := by
  intro k hk
  obtain ⟨w, -, hw⟩ := exists_element_of_map_eq h.keys_read hk
  exact PublicKey.valid_of_decode hw

end

theorem exists_accepts {publicKeys messages : List Bytes} {signature : Bytes}
    (h : (aggregateVerify G publicKeys messages signature).result = .ok ()) :
    ∃ (keys : List (PublicKey G)) (s : Signature G),
      Accepts publicKeys messages signature keys s := by
  obtain ⟨keys, s, hread, hne, hcount, hnodup, hholds⟩ := checked_of_accepted h
  exact ⟨keys, s, hread.keys_read, hread.signature_read, mt hread.eq_nil_iff.1 hne,
    hread.length_eq.trans hcount, hnodup, hholds⟩

/-- Where everything is read and only the test is not passed, the signature is rejected. -/
theorem result_aggregateVerify_rejected {publicKeys messages : List Bytes} {signature : Bytes}
    {keys : List (PublicKey G)} {s : Signature G}
    (hkeys : publicKeys.map PublicKey.decode = keys.map .ok)
    (hs : Signature.decode signature = .ok s) (hne : keys ≠ [])
    (hlength : keys.length = messages.length) (hnodup : messages.Nodup)
    (hnot : ¬ s.holdsFor messages keys = true) :
    (aggregateVerify G publicKeys messages signature).result = .error .signatureRejected := by
  rw [result_aggregateVerify_derived (mapM_eq_ok_of_map_eq hkeys) hne hlength hnodup, hs]
  exact if_neg hnot

variable (G) in
/-- The operations that verify aggregates: that of the scheme, and those of the verifiers to which
a run can lead. -/
inductive AggregateVerifier : (List Bytes → List Bytes → Bytes → Except Fault Unit) → Prop where
  | stateless :
      AggregateVerifier fun publicKeys messages signature =>
        (aggregateVerify G publicKeys messages signature).result
  | caching (capacity : Nat) (steps : List Verifier.Step) :
      AggregateVerifier fun publicKeys messages signature =>
        (((Verifier.fresh capacity : Verifier G).run steps).2.verifyAggregate publicKeys messages
          signature).1.result

theorem AggregateVerifier.result_eq {answer : List Bytes → List Bytes → Bytes → Except Fault Unit}
    (h : AggregateVerifier G answer) {publicKeys : List Bytes} (hne : publicKeys ≠ [])
    (messages : List Bytes) (signature : Bytes) :
    answer publicKeys messages signature =
      (aggregateVerify G publicKeys messages signature).result := by
  cases h with
  | stateless => rfl
  | caching capacity steps =>
    -- Whatever it was used for, a verifier remembers what it would read again.
    have hsound : ((Verifier.fresh capacity : Verifier G).run steps).2.Sound :=
      Verifier.sound_run (Verifier.sound_fresh capacity) steps
    exact Verifier.result_verifyAggregate hsound hne messages signature

/-- Nothing is accepted without keys. -/
theorem AggregateVerifier.ne_nil {answer : List Bytes → List Bytes → Bytes → Except Fault Unit}
    (h : AggregateVerifier G answer) {publicKeys messages : List Bytes} {signature : Bytes}
    (hok : answer publicKeys messages signature = .ok ()) : publicKeys ≠ [] := by
  rintro rfl
  cases h with
  | stateless =>
    obtain ⟨keys, s, haccepts⟩ := exists_accepts hok
    exact haccepts.ne_nil (List.map_eq_nil_iff.1 haccepts.keys_read.symm)
  | caching capacity steps => cases hok

/-! ## Binding -/

section

variable {publicKeys messages : List Bytes} {signature : Bytes} {keys : List (PublicKey G)}
  {s : Signature G} {i : Nat}

/-- Another key in the place of a signer's is not accepted. -/
theorem Accepts.rejected_set (h : Accepts publicKeys messages signature keys s)
    (hpoints : ∀ m ∈ messages, I.signatures.value (G.hash m) ≠ 0) (hi : i < publicKeys.length)
    {other : Bytes} {k : PublicKey G} (hk : PublicKey.decode other = .ok k)
    (hother : other ≠ publicKeys[i]) :
    (aggregateVerify G (publicKeys.set i other) messages signature).result =
      .error .signatureRejected := by
  have hik : i < keys.length := h.length_publicKeys ▸ hi
  have him : i < messages.length := h.length_eq ▸ hik
  have hkvalid : k.Valid I := PublicKey.valid_of_decode hk
  -- All checks ahead of the test are passed as before.
  have hread : (publicKeys.set i other).map PublicKey.decode =
      (keys.set i k).map (.ok : PublicKey G → Except Fault (PublicKey G)) := by
    rw [List.map_set, List.map_set, h.keys_read, hk]
  have hne : keys.set i k ≠ [] := by
    rw [ne_eq, List.set_eq_nil_iff]
    exact h.ne_nil
  have hlength : (keys.set i k).length = messages.length := by
    rw [List.length_set, h.length_eq]
  refine result_aggregateVerify_rejected hread h.signature_read hne hlength h.nodup ?_
  intro hnew
  -- The new key would be the same element as the old one, and an element has one written form.
  have hvalue : keys[i].value I = k.value I :=
    value_eq_of_holdsFor_set (Signature.proper_of_decode h.signature_read) h.valid hkvalid hik him
      (hpoints _ (List.getElem_mem him)) h.holds hnew
  have hencode := (PublicKey.encode_eq_iff (h.valid _ (List.getElem_mem hik)) hkvalid).2 hvalue
  rw [PublicKey.encode_of_decode I (h.decode_getElem hi hik),
    PublicKey.encode_of_decode I hk] at hencode
  exact hother hencode.symm

/-- Without one of its signers an aggregate is not accepted. -/
theorem Accepts.rejected_eraseIdx (h : Accepts publicKeys messages signature keys s)
    (hpoints : ∀ m ∈ messages, I.signatures.value (G.hash m) ≠ 0) (hi : i < publicKeys.length)
    (htwo : 2 ≤ publicKeys.length) :
    (aggregateVerify G (publicKeys.eraseIdx i) (messages.eraseIdx i) signature).result =
      .error .signatureRejected := by
  have hik : i < keys.length := h.length_publicKeys ▸ hi
  have him : i < messages.length := h.length_eq ▸ hik
  -- At least one signer is left, and the remaining messages are still distinct.
  have hread : (publicKeys.eraseIdx i).map PublicKey.decode =
      (keys.eraseIdx i).map (.ok : PublicKey G → Except Fault (PublicKey G)) := by
    rw [← List.eraseIdx_map, ← List.eraseIdx_map, h.keys_read]
  have hlength : (keys.eraseIdx i).length = (messages.eraseIdx i).length := by
    rw [List.length_eraseIdx_of_lt hik, List.length_eraseIdx_of_lt him, h.length_eq]
  have hne : keys.eraseIdx i ≠ [] := by
    rw [← List.length_pos_iff, List.length_eraseIdx_of_lt hik, ← h.length_publicKeys]
    omega
  have hnodup : (messages.eraseIdx i).Nodup := h.nodup.sublist (List.eraseIdx_sublist _ _)
  exact result_aggregateVerify_rejected hread h.signature_read hne hlength hnodup
    (not_holdsFor_eraseIdx (Signature.proper_of_decode h.signature_read) h.valid hik him
      (hpoints _ (List.getElem_mem him)) h.holds)

end

variable (I)

/-- **An accepted aggregate binds every signer.** Let an aggregate be accepted for messages whose
points are not zero. With another key in the place of any signer's, or without any one of at least
two signers and the message of that signer, the signature is rejected, be it by the scheme or by a
verifier with whatever it remembers. -/
theorem aggregate_binds_signers
    {accepting answer : List Bytes → List Bytes → Bytes → Except Fault Unit}
    (haccepting : AggregateVerifier G accepting) (hanswer : AggregateVerifier G answer)
    {publicKeys messages : List Bytes} {signature : Bytes}
    (hok : accepting publicKeys messages signature = .ok ())
    (hpoints : ∀ m ∈ messages, I.signatures.value (G.hash m) ≠ 0) {i : Nat}
    (hi : i < publicKeys.length) :
    (∀ (other : Bytes) (k : PublicKey G), PublicKey.decode other = .ok k → other ≠ publicKeys[i] →
      answer (publicKeys.set i other) messages signature = .error .signatureRejected) ∧
    (2 ≤ publicKeys.length →
      answer (publicKeys.eraseIdx i) (messages.eraseIdx i) signature =
        .error .signatureRejected) := by
  -- With keys given, all the operations answer as that of the scheme.
  have hne := haccepting.ne_nil hok
  rw [haccepting.result_eq hne] at hok
  obtain ⟨keys, s, haccepts⟩ := exists_accepts hok
  constructor
  · intro other k hk hother
    rw [hanswer.result_eq (by rwa [ne_eq, List.set_eq_nil_iff])]
    exact haccepts.rejected_set hpoints hi hk hother
  · intro htwo
    have hne' : publicKeys.eraseIdx i ≠ [] := by
      rw [← List.length_pos_iff, List.length_eraseIdx_of_lt hi]
      omega
    rw [hanswer.result_eq hne']
    exact haccepts.rejected_eraseIdx hpoints hi htwo

/-! ## A sample -/

variable {I}

/-- The sum of the signers' signatures is accepted under their keys. -/
theorem aggregateVerify_derived_eq_ok (signers : List (PrivateKey × Bytes))
    {keys : List (PublicKey G)} {publicKeys : List Bytes} (hne : signers ≠ [])
    (hread : publicKeys.mapM PublicKey.decode = .ok keys)
    (hkeys : List.Forall₂ (fun x k => Derived I x.1 k) signers keys)
    (hpoints : (signers.map fun x => I.signatures.value (G.hash x.2)).Nodup) :
    (aggregateVerify G publicKeys (signers.map Prod.snd)
      (Signature.sum (signers.map fun x => x.1.sign G x.2)).encode).result = .ok () := by
  have hpropers := proper_signatures I signers
  -- The written sum is read as an element of the same value, and this is the one that passes.
  obtain ⟨s, hs, hproper, hvalue⟩ := Signature.decode_encode (Signature.proper_sum hpropers)
  rw [Signature.value_sum hpropers, List.map_map] at hvalue
  rw [result_aggregateVerify_derived hread ((ne_nil_iff_of_forall₂ hkeys).1 hne)
    (length_derived hkeys) (nodup_messages hpoints), hs]
  exact if_pos ((holdsFor_derived_iff hkeys hproper).2 ⟨hne, hpoints, hvalue⟩)

/-- The private key two. -/
def otherSigner : PrivateKey :=
  .ofScalar (.ofNat 2)

/-- The written public key of a private key. -/
noncomputable def sampleKey (x : PrivateKey) : Bytes :=
  (x.publicKey sampleGroups).encode

/-- Two messages signed with one key. -/
def sampleSigners : List (PrivateKey × Bytes) :=
  [(sampleSigner, []), (sampleSigner, [1])]

theorem sampleKey_otherSigner_ne : sampleKey otherSigner ≠ sampleKey sampleSigner := by
  have hpos : 0 < sampleSigner.scalar.val ∧ 0 < otherSigner.scalar.val := by decide +kernel
  have hsample := sampleSigner.valid_publicKey sampleInterpretation hpos.1
  have hother := otherSigner.valid_publicKey sampleInterpretation hpos.2
  rw [sampleKey, sampleKey, ne_eq, PublicKey.encode_eq_iff hother hsample,
    PrivateKey.value_publicKey, PrivateKey.value_publicKey]
  show ¬ otherSigner.scalar.val • (1 : ZMod groupOrder) =
    sampleSigner.scalar.val • (1 : ZMod groupOrder)
  decide +kernel

/-- A verifier that remembers one key and has accepted an aggregate accepts it neither with the key
of another signer in the second place nor without the second message. -/
theorem aggregate_binds_signers_sample :
    let publicKeys : List Bytes := [sampleKey sampleSigner, sampleKey sampleSigner]
    let messages : List Bytes := [[], [1]]
    let signature : Bytes :=
      (Signature.sum (sampleSigners.map fun x => x.1.sign sampleGroups x.2)).encode
    let v : Verifier sampleGroups :=
      ((Verifier.fresh 1 : Verifier sampleGroups).run
        [.verifyAggregate publicKeys messages signature]).2
    (aggregateVerify sampleGroups publicKeys messages signature).result = .ok () ∧
    (∀ m ∈ messages, sampleInterpretation.signatures.value (sampleGroups.hash m) ≠ 0) ∧
    1 < publicKeys.length ∧
    (∃ k : PublicKey sampleGroups, PublicKey.decode (sampleKey otherSigner) = .ok k) ∧
    sampleKey otherSigner ≠ publicKeys[1] ∧
    (v.verifyAggregate (publicKeys.set 1 (sampleKey otherSigner)) messages signature).1.result =
      .error .signatureRejected ∧
    (v.verifyAggregate (publicKeys.eraseIdx 1) (messages.eraseIdx 1) signature).1.result =
      .error .signatureRejected := by
  intro publicKeys messages signature v
  -- One key signs two messages, which have distinct points other than zero.
  obtain ⟨k, hk, hderived⟩ := exists_derived sampleInterpretation decode_sampleSigner
  have hread : publicKeys.mapM PublicKey.decode = .ok [k, k] :=
    mapM_eq_ok (.cons hk (.cons hk .nil))
  have hnodup : (sampleSigners.map fun x =>
      sampleInterpretation.signatures.value (sampleGroups.hash x.2)).Nodup := by
    show [((Bytes.toNat [] : ZMod groupOrder) + 1), ((Bytes.toNat [1] : ZMod groupOrder) + 1)].Nodup
    decide +kernel
  have hok : (aggregateVerify sampleGroups publicKeys messages signature).result = .ok () :=
    aggregateVerify_derived_eq_ok sampleSigners (List.cons_ne_nil _ _) hread
      (.cons hderived (.cons hderived .nil)) hnodup
  have hpoints : ∀ m ∈ messages,
      sampleInterpretation.signatures.value (sampleGroups.hash m) ≠ 0 := by
    intro m hm
    simp only [messages, List.mem_cons, List.not_mem_nil, or_false] at hm
    show (Bytes.toNat m : ZMod groupOrder) + 1 ≠ 0
    obtain rfl | rfl := hm <;> decide +kernel
  have hlength : 1 < publicKeys.length := Nat.one_lt_two
  -- The other signer's key is read as well.
  have hother : PrivateKey.decode otherSigner.encode = .ok otherSigner := by decide +kernel
  obtain ⟨l, hl, -⟩ := exists_derived sampleInterpretation hother
  obtain ⟨hset, herase⟩ := aggregate_binds_signers sampleInterpretation .stateless
    (.caching 1 [.verifyAggregate publicKeys messages signature]) hok hpoints hlength
  exact ⟨hok, hpoints, hlength, ⟨l, hl⟩, sampleKey_otherSigner_ne,
    hset _ l hl sampleKey_otherSigner_ne, herase hlength⟩

end PairingSig.Scheme
