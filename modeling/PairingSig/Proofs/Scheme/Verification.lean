import PairingSig.Proofs.Groups.Exponents
import PairingSig.Proofs.Scheme.Results
import PairingSig.Proofs.Scheme.Signers

/-!
# Exact acceptance of a single signature

For a key that was derived from a private key, verification accepts one byte string for each
message: the one that signing the message gives. A string that is no signature is refused for the
reason for which it is none, and every other string because the pairings differ.

Main statement: `verify_derivePublicKey`.
-/

namespace PairingSig.Scheme

variable {G : PairingGroups} {A₁ A₂ T : Type} [AddCommGroup A₁] [AddCommGroup A₂] [AddCommGroup T]

/-- A derived key verifies the signature that stands for the private key's, and no other. -/
theorem verifies_derived_iff {I : G.Interpretation A₁ A₂ T} {x : PrivateKey} {k : PublicKey G}
    (hk : Derived I x k) {s : Signature G} (hs : s.Proper I) (message : Bytes) :
    k.verifies message s = true ↔ s.value I = (x.sign G message).value I := by
  have hall : List.Forall₂ (fun signer k => Derived I signer.1 k) [(x, message)] [k] :=
    .cons hk .nil
  -- The case of one signer, for whom there is nothing to be told apart.
  have h := holdsFor_derived_iff hall hs
  rw [PublicKey.verifies]
  refine h.trans ⟨?_, ?_⟩
  · rintro ⟨-, -, hvalue⟩
    rw [hvalue, List.map_singleton, List.sum_singleton]
  · intro hvalue
    refine ⟨List.cons_ne_nil _ _, List.nodup_singleton _, ?_⟩
    rw [hvalue, List.map_singleton, List.sum_singleton]

/-- What a key that can be read signs is verified under its public key. -/
theorem verify_signed (I : G.Interpretation A₁ A₂ T) {key : Bytes} {x : PrivateKey}
    (hx : PrivateKey.decode key = .ok x) (message : Bytes) :
    (verify G (x.publicKey G).encode message (x.sign G message).encode).result = .ok () := by
  obtain ⟨k, hk, hderived⟩ := exists_derived I hx
  obtain ⟨s, hs, hproper, hvalue⟩ := Signature.decode_encode (x.proper_sign I message)
  have hverifies : k.verifies message s = true :=
    (verifies_derived_iff hderived hproper message).2 hvalue
  rw [result_verify, hk, hs]
  exact if_pos hverifies

/-- **Exact acceptance.** Let a private key be read from `key`. Then its public key can be derived
and messages can be signed with it, and verification under that public key accepts, of all byte
strings, the signature alone. -/
theorem verify_derivePublicKey (I : G.Interpretation A₁ A₂ T) {key : Bytes} {x : PrivateKey}
    (hx : PrivateKey.decode key = .ok x) (message : Bytes) :
    ∃ publicKey signature,
      (derivePublicKey G key).result = .ok publicKey ∧
      (sign G key message).result = .ok signature ∧ signature.length = signatureLength ∧
      AcceptsOnly G signature fun s => (verify G publicKey message s).result := by
  obtain ⟨k, hk, hderived⟩ := exists_derived I hx
  have hsign : (x.sign G message).Proper I := x.proper_sign I message
  refine ⟨(x.publicKey G).encode, (x.sign G message).encode, derivePublicKey_of_decode hx,
    sign_of_decode hx message, Signature.length_encode hsign, ?_⟩
  -- The key is read as a derived one, and what is left of verification is its test.
  apply acceptsOnly_of_test hsign (fun t ht => verifies_derived_iff hderived ht message)
  intro s
  rw [result_verify, hk]
  rfl

theorem verify_derivePublicKey_sample :
    PrivateKey.decode sampleSigner.encode = .ok sampleSigner ∧
    ∃ publicKey signature,
      (derivePublicKey sampleGroups sampleSigner.encode).result = .ok publicKey ∧
      (sign sampleGroups sampleSigner.encode []).result = .ok signature ∧
      signature.length = signatureLength ∧
      AcceptsOnly sampleGroups signature
        fun s => (verify sampleGroups publicKey [] s).result :=
  ⟨decode_sampleSigner, verify_derivePublicKey sampleInterpretation decode_sampleSigner []⟩

end PairingSig.Scheme
