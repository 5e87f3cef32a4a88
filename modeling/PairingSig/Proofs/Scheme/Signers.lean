import Mathlib.Data.List.Forall2
import PairingSig.Proofs.Groups.Values
import PairingSig.Proofs.Traversal
import PairingSig.Scheme

/-!
# Signers

Keys that were derived from private keys, written and read again, and what the test of a signature
comes to for them: the pairings can be moved to the side of the generator, where nothing is lost, so
that exactly one group element passes.

- `Derived`: a key stands for the multiple of the generator by the scalar of a private key;
- `exists_derived`: the written form of a derived key is read as such a key;
- `holdsFor_derived_iff`: the test is passed by the sum of the signers' signatures alone;
- `AcceptsOnly`: of all byte strings, one is accepted; `acceptsOnly_of_test` carries this over from
  a test on group elements.
-/

namespace PairingSig

open PairingGroups (Interpretation)

variable {G : PairingGroups} {A₁ A₂ T : Type} [AddCommGroup A₁] [AddCommGroup A₂] [AddCommGroup T]
  {I : G.Interpretation A₁ A₂ T}

/-- A valid key that stands for the public key of a private key. -/
structure Derived (I : G.Interpretation A₁ A₂ T) (x : PrivateKey) (k : PublicKey G) : Prop where
  valid : k.Valid I
  value_eq : k.value I = x.scalar.val • I.keys.value G.generator

/-- The written public key of a private key that was read is read as a derived key. -/
theorem exists_derived (I : G.Interpretation A₁ A₂ T) {bs : Bytes} {x : PrivateKey}
    (hx : PrivateKey.decode bs = .ok x) :
    ∃ k : PublicKey G, PublicKey.decode (x.publicKey G).encode = .ok k ∧ Derived I x k := by
  have hvalid : (x.publicKey G).Valid I := x.valid_publicKey I (PrivateKey.val_scalar_pos hx)
  obtain ⟨k, hk, hkvalid, hkvalue⟩ := PublicKey.decode_encode hvalid
  exact ⟨k, hk, hkvalid, hkvalue.trans (x.value_publicKey I)⟩

/-- Pairing a derived key with the point of a message is pairing the generator with the signature of
the message. -/
theorem Derived.pairing_eq {x : PrivateKey} {k : PublicKey G} (h : Derived I x k) (m : Bytes) :
    I.pairing (k.value I) (I.signatures.value (G.hash m)) =
      I.pairing (I.keys.value G.generator) ((x.sign G m).value I) := by
  rw [h.value_eq, x.value_sign, map_nsmul, map_nsmul, AddMonoidHom.nsmul_apply]

theorem valid_of_derived {signers : List (PrivateKey × Bytes)} {keys : List (PublicKey G)}
    (hkeys : List.Forall₂ (fun x k => Derived I x.1 k) signers keys) : ∀ k ∈ keys, k.Valid I := by
  induction hkeys with
  | nil => exact List.forall_mem_nil _
  | cons h _ ih => exact List.forall_mem_cons.2 ⟨h.valid, ih⟩

theorem proper_signatures (I : G.Interpretation A₁ A₂ T) (signers : List (PrivateKey × Bytes)) :
    ∀ s ∈ signers.map fun x => x.1.sign G x.2, s.Proper I := by
  intro s hs
  obtain ⟨x, -, rfl⟩ := List.mem_map.1 hs
  exact x.1.proper_sign I x.2

/-- Messages with distinct points are distinct, so no repeat is found among them. -/
theorem nodup_messages {signers : List (PrivateKey × Bytes)}
    (h : (signers.map fun x => I.signatures.value (G.hash x.2)).Nodup) :
    (signers.map Prod.snd).Nodup := by
  apply List.Nodup.of_map (fun m => I.signatures.value (G.hash m))
  rwa [List.map_map]

theorem length_derived {signers : List (PrivateKey × Bytes)} {keys : List (PublicKey G)}
    (hkeys : List.Forall₂ (fun x k => Derived I x.1 k) signers keys) :
    keys.length = (signers.map Prod.snd).length := by
  rw [List.length_map, hkeys.length_eq]

/-- The product of the pairings of derived keys and messages is the pairing of the generator with
the sum of the signatures. -/
theorem sum_pairing_derived {signers : List (PrivateKey × Bytes)} {keys : List (PublicKey G)}
    (hkeys : List.Forall₂ (fun x k => Derived I x.1 k) signers keys) :
    ((keys.zip (signers.map Prod.snd)).map fun km =>
        I.pairing (km.1.value I) (I.signatures.value (G.hash km.2))).sum =
      I.pairing (I.keys.value G.generator)
        ((signers.map fun x => (x.1.sign G x.2).value I).sum) := by
  induction hkeys with
  | nil =>
    rw [List.zip_nil_left, List.map_nil, List.map_nil, List.sum_nil, List.sum_nil, map_zero]
  | cons h _ ih =>
    -- The first key with its message pairs as the generator with the first signature.
    simp only [List.map_cons, List.zip_cons_cons, List.sum_cons, map_add]
    rw [ih, h.pairing_eq]

/-- **Exactly one element passes the test** for derived keys and messages with pairwise distinct
points: the sum of the signatures of the messages under the private keys. -/
theorem holdsFor_derived_iff {signers : List (PrivateKey × Bytes)} {keys : List (PublicKey G)}
    (hkeys : List.Forall₂ (fun x k => Derived I x.1 k) signers keys) {s : Signature G}
    (hs : s.Proper I) :
    s.holdsFor (signers.map Prod.snd) keys = true ↔
      signers ≠ [] ∧ (signers.map fun x => I.signatures.value (G.hash x.2)).Nodup ∧
        s.value I = (signers.map fun x => (x.1.sign G x.2).value I).sum := by
  have hne : signers ≠ [] ↔ keys ≠ [] := ne_nil_iff_of_forall₂ hkeys
  -- Both sides of the equation are pairings with the generator, which are told apart.
  rw [Signature.holdsFor_iff hs (valid_of_derived hkeys), sum_pairing_derived hkeys,
    I.pairing_generator_injective.eq_iff, List.map_map]
  constructor
  · rintro ⟨hkeysne, -, hdistinct, hvalue⟩
    exact ⟨hne.2 hkeysne, hdistinct, hvalue⟩
  · rintro ⟨hsignersne, hdistinct, hvalue⟩
    exact ⟨hne.1 hsignersne, length_derived hkeys, hdistinct, hvalue⟩

/-! ## One accepted string -/

/-- Of all byte strings, `answer` accepts `signature` alone. A string that is no signature is
refused for the fault of its point, and any other string because it does not belong to the keys and
messages. -/
structure AcceptsOnly (G : PairingGroups) (signature : Bytes)
    (answer : Bytes → Except Fault Unit) : Prop where
  accepted_iff : ∀ s, answer s = .ok () ↔ s = signature
  faulty : ∀ s f, (Signature.decode s : Except Fault (Signature G)) = .error f →
    answer s = .error f ∧ ∃ d, f = .point d
  rejected : ∀ s t, (Signature.decode s : Except Fault (Signature G)) = .ok t → s ≠ signature →
    answer s = .error .signatureRejected

/-- **From elements to byte strings.** An answer that reads a signature and tests it accepts the
written form of `σ` alone when only the element of `σ` passes the test: no element has a second
written form. -/
theorem acceptsOnly_of_test {σ : Signature G} (hσ : σ.Proper I) {test : Signature G → Bool}
    (htest : ∀ t : Signature G, t.Proper I → (test t = true ↔ t.value I = σ.value I))
    {answer : Bytes → Except Fault Unit}
    (hanswer : ∀ s, answer s = do
      let t ← Signature.decode s
      if test t then .ok () else .error .signatureRejected) :
    AcceptsOnly G σ.encode answer := by
  have hfaulty : ∀ s f, (Signature.decode s : Except Fault (Signature G)) = .error f →
      answer s = .error f := by
    intro s f hf
    rw [hanswer, hf]
    rfl
  have hread : ∀ s t, (Signature.decode s : Except Fault (Signature G)) = .ok t →
      answer s = if s = σ.encode then .ok () else .error .signatureRejected := by
    intro s t ht
    have hproper := Signature.proper_of_decode (I := I) ht
    -- The string that was read is written for `t`, so it tells which element passes the test.
    have hiff : test t = true ↔ s = σ.encode := by
      rw [htest t hproper, ← Signature.encode_eq_iff hproper hσ, Signature.encode_of_decode I ht]
    rw [hanswer, ht]
    exact if_congr hiff rfl rfl
  refine ⟨fun s => ⟨fun hok => ?_, ?_⟩, fun s f hf => ⟨hfaulty s f hf, Signature.decode_error hf⟩,
    fun s t ht hne => ?_⟩
  · -- An accepted string was read, and so it is the one string.
    cases ht : (Signature.decode s : Except Fault (Signature G)) with
    | error f =>
      rw [hfaulty s f ht] at hok
      cases hok
    | ok t =>
      by_contra hne
      rw [hread s t ht, if_neg hne] at hok
      cases hok
  · rintro rfl
    obtain ⟨t, ht, -⟩ := Signature.decode_encode hσ
    rw [hread σ.encode t ht, if_pos rfl]
  · rw [hread s t ht, if_neg hne]

end PairingSig
