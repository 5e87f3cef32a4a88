import PairingSig.Proofs.Groups.Values
import PairingSig.Scheme

/-!
# What the operations answer

The results of the operations on bytes, their events aside: each reads its inputs in a fixed order,
stops at the first fault, and then calls the operation on keys and signatures.
-/

namespace PairingSig.Scheme

variable {G : PairingGroups}

theorem result_generateKey (seed : Bytes) :
    (generateKey seed).result = (KeyGeneration.generate seed).map PrivateKey.encode := by
  unfold generateKey
  cases KeyGeneration.generate seed <;> rfl

theorem result_derivePublicKey (key : Bytes) :
    (derivePublicKey G key).result =
      (PrivateKey.decode key).map fun x => (x.publicKey G).encode := by
  unfold derivePublicKey
  cases PrivateKey.decode key <;> rfl

theorem result_sign (key message : Bytes) :
    (sign G key message).result =
      (PrivateKey.decode key).map fun x => (x.sign G message).encode := by
  unfold sign
  cases PrivateKey.decode key <;> rfl

theorem derivePublicKey_of_decode {key : Bytes} {x : PrivateKey}
    (hx : PrivateKey.decode key = .ok x) :
    (derivePublicKey G key).result = .ok (x.publicKey G).encode := by
  simp only [derivePublicKey, hx, Outcome.result_ok]

theorem sign_of_decode {key : Bytes} {x : PrivateKey} (hx : PrivateKey.decode key = .ok x)
    (message : Bytes) : (sign G key message).result = .ok (x.sign G message).encode := by
  simp only [sign, hx, Outcome.result_ok]

/-- Verification reads the key, then the signature, and then tests the two. -/
theorem result_verify (publicKey message signature : Bytes) :
    (verify G publicKey message signature).result =
      (do
        let k : PublicKey G ← PublicKey.decode publicKey
        let s ← Signature.decode signature
        if k.verifies message s then .ok () else .error .signatureRejected) := by
  unfold verify
  cases (PublicKey.decode publicKey : Except Fault (PublicKey G)) with
  | error f => rfl
  | ok k =>
    cases (Signature.decode signature : Except Fault (Signature G)) with
    | error f => rfl
    | ok s =>
      show Outcome.result (if k.verifies message s then _ else _) = ite _ _ _
      split <;> rfl

/-- Aggregation reads all signatures before it adds them up. -/
theorem result_aggregate (signatures : List Bytes) :
    (aggregate G signatures).result =
      (do
        let sigs : List (Signature G) ← signatures.mapM Signature.decode
        (Signature.aggregate sigs).map Signature.encode) := by
  unfold aggregate
  cases (signatures.mapM Signature.decode : Except Fault (List (Signature G))) with
  | error f => rfl
  | ok sigs =>
    show _ = (Signature.aggregate sigs).map Signature.encode
    dsimp only
    cases Signature.aggregate sigs <;> rfl

theorem aggregate_of_decode {signatures : List Bytes} {sigs : List (Signature G)}
    (hread : signatures.mapM Signature.decode = .ok sigs) (hne : sigs ≠ []) :
    (aggregate G signatures).result = .ok (Signature.sum sigs).encode := by
  have hsum := Signature.aggregate_eq_ok_iff.2 ⟨hne, rfl⟩
  simp only [aggregate, hread, hsum, Outcome.result_ok]

/-- Aggregate verification reads the keys, then the signature, and then checks them together. -/
theorem result_aggregateVerify (publicKeys messages : List Bytes) (signature : Bytes) :
    (aggregateVerify G publicKeys messages signature).result =
      (do
        let keys : List (PublicKey G) ← publicKeys.mapM PublicKey.decode
        let s ← Signature.decode signature
        (verifyDistinct keys messages s).result) := by
  unfold aggregateVerify
  cases (publicKeys.mapM PublicKey.decode : Except Fault (List (PublicKey G))) with
  | error f => rfl
  | ok keys => cases (Signature.decode signature : Except Fault (Signature G)) <;> rfl

/-! ## Repeated messages -/

theorem firstRepeatFrom_eq_none_iff (place : Nat) (seen messages : List Bytes) :
    firstRepeatFrom place seen messages = none ↔
      messages.Nodup ∧ ∀ m ∈ messages, m ∉ seen := by
  induction messages generalizing place seen with
  | nil => exact ⟨fun _ => ⟨List.nodup_nil, List.forall_mem_nil _⟩, fun _ => rfl⟩
  | cons m rest ih =>
    rw [firstRepeatFrom]
    split
    -- The scan stops at a message that was seen.
    · rename_i hseen
      constructor
      · intro h
        cases h
      · rintro ⟨-, h⟩
        exact absurd hseen (h m List.mem_cons_self)
    -- It goes on with one more message among those seen.
    · rename_i hseen
      rw [ih, List.nodup_cons, List.forall_mem_cons]
      constructor
      · rintro ⟨hnodup, hrest⟩
        refine ⟨⟨fun hm => hrest m hm List.mem_cons_self, hnodup⟩, hseen, ?_⟩
        exact fun m' hm' h => hrest m' hm' (List.mem_cons_of_mem m h)
      · rintro ⟨⟨hm, hnodup⟩, -, hrest⟩
        refine ⟨hnodup, fun m' hm' h => ?_⟩
        obtain rfl | h := List.mem_cons.1 h
        · exact hm hm'
        · exact hrest m' hm' h

/-- No repeat is found exactly when the messages are pairwise distinct. -/
theorem firstRepeat?_eq_none_iff (messages : List Bytes) :
    firstRepeat? messages = none ↔ messages.Nodup := by
  rw [firstRepeat?, firstRepeatFrom_eq_none_iff]
  exact and_iff_left fun _ _ => List.not_mem_nil

theorem exists_firstRepeat? {messages : List Bytes} (h : ¬ messages.Nodup) :
    ∃ i, firstRepeat? messages = some i :=
  Option.ne_none_iff_exists'.1 (mt (firstRepeat?_eq_none_iff messages).1 h)

/-- For at least one key and as many pairwise distinct messages, only the test is left. -/
theorem result_verifyDistinct {keys : List (PublicKey G)} {messages : List Bytes}
    (hne : keys ≠ []) (hlength : keys.length = messages.length) (hnodup : messages.Nodup)
    (s : Signature G) :
    (verifyDistinct keys messages s).result =
      if s.holdsFor messages keys then .ok () else .error .signatureRejected := by
  -- The checks before the test are made in this order, and each of them is passed.
  rw [verifyDistinct, if_neg (by rwa [List.isEmpty_iff]), if_neg (not_not_intro hlength),
    (firstRepeat?_eq_none_iff messages).2 hnodup]
  show Outcome.result (if s.holdsFor messages keys then _ else _) = _
  split <;> rfl

end PairingSig.Scheme
