import Mathlib.Algebra.BigOperators.Group.List.Lemmas
import PairingSig.Proofs.Groups.Interpretation
import PairingSig.Signature

/-!
# Keys and signatures as group elements

What the operations on public keys and signatures do to the elements that these stand for. Above
this module nothing looks at representatives.

- **Written forms**: a key or a signature that is written is read as the same element, and what is
  read is written as it stood.
- **Operations**: deriving and signing are multiples by the scalar of the private key
  (`value_publicKey`, `value_sign`), and aggregation is a sum (`value_sum`).
- **The test**: `Signature.holdsFor_iff` turns the test of signatures, keys and messages into the
  equation of pairings together with the checks made before it.
-/

namespace PairingSig

open PairingGroups (Interpretation)

variable {G : PairingGroups} {A₁ A₂ T : Type} [AddCommGroup A₁] [AddCommGroup A₂] [AddCommGroup T]
  (I : G.Interpretation A₁ A₂ T)

/-! ## Public keys -/

namespace PublicKey

/-- The element that a key stands for. -/
def value (k : PublicKey G) : A₁ :=
  I.keys.value k.point

/-- A key that verification admits: a representative in use, not of the identity. -/
structure Valid (k : PublicKey G) : Prop where
  proper : I.keys.proper k.point
  value_ne_zero : k.value I ≠ 0

variable {I}

theorem Valid.isIdentity_eq_false {k : PublicKey G} (h : k.Valid I) : k.isIdentity = false := by
  rw [isIdentity, Bool.eq_false_iff]
  intro hid
  exact h.value_ne_zero ((I.isIdentity₁_iff k.point h.proper).1 hid)

theorem decode_eq_ok {bs : Bytes} {P : G.G₁} (hl : bs.length = publicKeyLength)
    (hP : G.decode₁? bs = some P) (hid : G.isIdentity₁ P = false) :
    (decode bs : Except Fault (PublicKey G)) = .ok ⟨P⟩ := by
  simp only [decode, hl, hP, hid, if_true, Bool.false_eq_true, if_false]

theorem beq_iff {k l : PublicKey G} : (k == l) = true ↔ k.encode = l.encode := by
  show (k.encode == l.encode) = true ↔ k.encode = l.encode
  exact beq_iff_eq

theorem decode_of_length_ne {bs : Bytes} (hl : bs.length ≠ publicKeyLength) :
    (decode bs : Except Fault (PublicKey G)) = .error (.point (.publicKeyLength bs.length)) := by
  rw [decode, if_neg hl]

theorem length_of_decode {bs : Bytes} {k : PublicKey G} (h : decode bs = .ok k) :
    bs.length = publicKeyLength := by
  by_contra hl
  rw [decode_of_length_ne hl] at h
  cases h

theorem decode_of_none {bs : Bytes} (hl : bs.length = publicKeyLength)
    (hP : G.decode₁? bs = none) :
    (decode bs : Except Fault (PublicKey G)) = .error (.point .publicKey) := by
  simp only [decode, hl, hP, if_true]

theorem decode_of_identity {bs : Bytes} {P : G.G₁} (hl : bs.length = publicKeyLength)
    (hP : G.decode₁? bs = some P) (hid : G.isIdentity₁ P = true) :
    (decode bs : Except Fault (PublicKey G)) = .error (.point .identityPublicKey) := by
  simp only [decode, hl, hP, hid, if_true]

/-- What is read was written by a key of the group other than the identity. -/
theorem decode_ok {bs : Bytes} {k : PublicKey G} (h : decode bs = .ok k) :
    G.decode₁? bs = some k.point ∧ G.isIdentity₁ k.point = false := by
  -- The last of the three tests is for the identity.
  unfold decode at h
  split at h
  · split at h
    · cases h
    · rename_i P hP
      split at h
      · cases h
      · rename_i hid
        cases h
        exact ⟨hP, Bool.eq_false_iff.2 hid⟩
  · cases h

/-- Bytes that are no public key are faulty as a point. -/
theorem decode_error {bs : Bytes} {f : Fault}
    (h : (decode bs : Except Fault (PublicKey G)) = .error f) : ∃ d, f = .point d := by
  -- Three of the four ways through the reader end in a fault.
  unfold decode at h
  split at h
  · split at h
    · cases h
      exact ⟨_, rfl⟩
    · split at h
      · cases h
        exact ⟨_, rfl⟩
      · cases h
  · cases h
    exact ⟨_, rfl⟩

theorem valid_of_decode {bs : Bytes} {k : PublicKey G} (h : decode bs = .ok k) : k.Valid I := by
  obtain ⟨hP, hid⟩ := decode_ok h
  have hproper := I.keyCodec.proper_of_decode bs k.point hP
  refine ⟨hproper, fun h0 => ?_⟩
  rw [(I.isIdentity₁_iff k.point hproper).2 h0] at hid
  cases hid

theorem encode_of_decode (I : G.Interpretation A₁ A₂ T) {bs : Bytes} {k : PublicKey G}
    (h : decode bs = .ok k) : k.encode = bs :=
  I.keyCodec.encode_of_decode bs k.point (decode_ok h).1

theorem length_encode {k : PublicKey G} (h : k.Valid I) : k.encode.length = publicKeyLength :=
  I.keyCodec.length_encode k.point h.proper

/-- A valid key is read from its written form, as the same element. -/
theorem decode_encode {k : PublicKey G} (h : k.Valid I) :
    ∃ k' : PublicKey G, decode k.encode = .ok k' ∧ k'.Valid I ∧ k'.value I = k.value I := by
  obtain ⟨P, hP, hv⟩ := I.keyCodec.decode_encode k.point h.proper
  have hproper := I.keyCodec.proper_of_decode _ P hP
  have hid : G.isIdentity₁ P = false := by
    rw [Bool.eq_false_iff]
    intro hid
    exact h.value_ne_zero (hv.symm.trans ((I.isIdentity₁_iff P hproper).1 hid))
  have hdecode := decode_eq_ok (length_encode h) hP hid
  exact ⟨⟨P⟩, hdecode, valid_of_decode hdecode, hv⟩

/-- Keys are written alike exactly when they are the same element. -/
theorem encode_eq_iff {k l : PublicKey G} (hk : k.Valid I) (hl : l.Valid I) :
    k.encode = l.encode ↔ k.value I = l.value I :=
  I.keyCodec.encode_eq_iff hk.proper hl.proper

end PublicKey

namespace PrivateKey

theorem value_publicKey (k : PrivateKey) :
    (k.publicKey G).value I = k.scalar.val • I.keys.value G.generator :=
  I.value_smul₁ k.scalar G.generator I.proper_generator

/-- The public key of a private key other than zero is valid. -/
theorem valid_publicKey {k : PrivateKey} (hpos : 0 < k.scalar.val) : (k.publicKey G).Valid I where
  proper := I.proper_smul₁ k.scalar G.generator I.proper_generator
  value_ne_zero := by
    rw [value_publicKey]
    exact I.nsmul_generator_ne_zero hpos k.scalar.isLt

end PrivateKey

/-! ## Signatures -/

namespace Signature

/-- The element that a signature stands for. -/
def value (s : Signature G) : A₂ :=
  I.signatures.value s.point

/-- A signature whose representative is in use. -/
def Proper (s : Signature G) : Prop :=
  I.signatures.proper s.point

variable {I}

theorem decode_eq_ok {bs : Bytes} {P : G.G₂} (hl : bs.length = signatureLength)
    (hP : G.decode₂? bs = some P) : (decode bs : Except Fault (Signature G)) = .ok ⟨P⟩ := by
  simp only [decode, hl, hP, if_true]

theorem beq_iff {s t : Signature G} : (s == t) = true ↔ s.encode = t.encode := by
  show (s.encode == t.encode) = true ↔ s.encode = t.encode
  exact beq_iff_eq

theorem decode_of_length_ne {bs : Bytes} (hl : bs.length ≠ signatureLength) :
    (decode bs : Except Fault (Signature G)) = .error (.point (.signatureLength bs.length)) := by
  rw [decode, if_neg hl]

theorem length_of_decode {bs : Bytes} {s : Signature G} (h : decode bs = .ok s) :
    bs.length = signatureLength := by
  by_contra hl
  rw [decode_of_length_ne hl] at h
  cases h

theorem decode_of_none {bs : Bytes} (hl : bs.length = signatureLength)
    (hP : G.decode₂? bs = none) :
    (decode bs : Except Fault (Signature G)) = .error (.point .signature) := by
  simp only [decode, hl, hP, if_true]

theorem decode_ok {bs : Bytes} {s : Signature G} (h : decode bs = .ok s) :
    G.decode₂? bs = some s.point := by
  unfold decode at h
  split at h
  · split at h
    · cases h
    · rename_i P hP
      cases h
      exact hP
  · cases h

/-- Bytes that are no signature are faulty as a point: they have the wrong length, or no point is
read from them. -/
theorem decode_error {bs : Bytes} {f : Fault}
    (h : (decode bs : Except Fault (Signature G)) = .error f) : ∃ d, f = .point d := by
  unfold decode at h
  split at h
  · split at h
    · cases h
      exact ⟨_, rfl⟩
    · cases h
  · cases h
    exact ⟨_, rfl⟩

theorem proper_of_decode {bs : Bytes} {s : Signature G} (h : decode bs = .ok s) : s.Proper I :=
  I.signatureCodec.proper_of_decode bs s.point (decode_ok h)

theorem encode_of_decode (I : G.Interpretation A₁ A₂ T) {bs : Bytes} {s : Signature G}
    (h : decode bs = .ok s) : s.encode = bs :=
  I.signatureCodec.encode_of_decode bs s.point (decode_ok h)

theorem length_encode {s : Signature G} (h : s.Proper I) : s.encode.length = signatureLength :=
  I.signatureCodec.length_encode s.point h

/-- A signature is read from its written form, as the same element. -/
theorem decode_encode {s : Signature G} (h : s.Proper I) :
    ∃ s' : Signature G, decode s.encode = .ok s' ∧ s'.Proper I ∧ s'.value I = s.value I := by
  obtain ⟨P, hP, hv⟩ := I.signatureCodec.decode_encode s.point h
  have hdecode := decode_eq_ok (length_encode h) hP
  exact ⟨⟨P⟩, hdecode, proper_of_decode hdecode, hv⟩

/-- Signatures are written alike exactly when they are the same element. -/
theorem encode_eq_iff {s t : Signature G} (hs : s.Proper I) (ht : t.Proper I) :
    s.encode = t.encode ↔ s.value I = t.value I :=
  I.signatureCodec.encode_eq_iff hs ht

end Signature

namespace PrivateKey

theorem proper_sign (k : PrivateKey) (m : Bytes) : (k.sign G m).Proper I :=
  I.proper_smul₂ k.scalar (G.hash m) (I.proper_hash m)

theorem value_sign (k : PrivateKey) (m : Bytes) :
    (k.sign G m).value I = k.scalar.val • I.signatures.value (G.hash m) :=
  I.value_smul₂ k.scalar (G.hash m) (I.proper_hash m)

end PrivateKey

namespace Signature

variable {I}

/-- Signatures add up if there are any. -/
theorem aggregate_eq_ok_iff {sigs : List (Signature G)} {s : Signature G} :
    aggregate sigs = .ok s ↔ sigs ≠ [] ∧ s = sum sigs := by
  cases sigs with
  | nil => exact iff_of_false (fun h => by cases h) fun h => h.1 rfl
  | cons t rest =>
    have h : aggregate (t :: rest) = .ok (sum (t :: rest)) := rfl
    rw [h, Except.ok.injEq, eq_comm, and_iff_right (List.cons_ne_nil t rest)]

/-- Adding signatures to a point one after the other adds their sum. -/
theorem foldl_add₂ (sigs : List (Signature G)) (hs : ∀ s ∈ sigs, s.Proper I) (P : G.G₂)
    (hP : I.signatures.proper P) :
    I.signatures.proper (sigs.foldl (fun Q s => G.add₂ Q s.point) P) ∧
      I.signatures.value (sigs.foldl (fun Q s => G.add₂ Q s.point) P) =
        I.signatures.value P + (sigs.map (value I)).sum := by
  -- The sum so far is the start of the rest of the sum.
  induction sigs generalizing P with
  | nil => exact ⟨hP, by rw [List.map_nil, List.sum_nil, add_zero, List.foldl_nil]⟩
  | cons s rest ih =>
    have hsP : I.signatures.proper s.point := hs s List.mem_cons_self
    obtain ⟨hproper, hvalue⟩ := ih (fun t ht => hs t (List.mem_cons_of_mem s ht))
      (G.add₂ P s.point) (I.proper_add₂ P s.point hP hsP)
    refine ⟨hproper, ?_⟩
    rw [List.foldl_cons, hvalue, I.value_add₂ P s.point hP hsP, List.map_cons, List.sum_cons,
      add_assoc]
    rfl

theorem proper_sum {sigs : List (Signature G)} (hs : ∀ s ∈ sigs, s.Proper I) :
    (sum sigs).Proper I :=
  (foldl_add₂ sigs hs G.identity₂ I.proper_identity₂).1

/-- **Aggregation is a sum** of group elements. -/
theorem value_sum {sigs : List (Signature G)} (hs : ∀ s ∈ sigs, s.Proper I) :
    (sum sigs).value I = (sigs.map (value I)).sum := by
  have h := (foldl_add₂ sigs hs G.identity₂ I.proper_identity₂).2
  rw [I.value_identity₂, zero_add] at h
  exact h

/-! ## The test -/

/-- Valid keys pass the look for an identity. -/
theorem any_isIdentity_eq_false {keys : List (PublicKey G)} (hk : ∀ k ∈ keys, k.Valid I) :
    keys.any PublicKey.isIdentity = false := by
  rw [List.any_eq_false]
  intro k hkey
  rw [(hk k hkey).isIdentity_eq_false]
  exact Bool.false_ne_true

/-- The pairings of a test are of elements that are in use. -/
theorem proper_of_mem_zip {keys : List (PublicKey G)} (hk : ∀ k ∈ keys, k.Valid I)
    (messages : List Bytes) : ∀ pq ∈ (keys.map PublicKey.point).zip (messages.map G.hash),
      I.keys.proper pq.1 ∧ I.signatures.proper pq.2 := by
  intro pq hpq
  rw [List.zip_map] at hpq
  obtain ⟨⟨k, m⟩, hkm, rfl⟩ := List.mem_map.1 hpq
  exact ⟨(hk k (List.of_mem_zip hkm).1).proper, I.proper_hash m⟩

theorem hashesDiffer_iff (messages : List Bytes) :
    hashesDiffer G (messages.map G.hash) = true ↔
      (messages.map fun m => I.signatures.value (G.hash m)).Nodup := by
  rw [hashesDiffer, decide_eq_true_iff, List.map_map, List.Nodup, List.Nodup, List.pairwise_map,
    List.pairwise_map]
  apply List.Pairwise.iff
  intro m m'
  exact not_congr (I.signatureCodec.encode_eq_iff (I.proper_hash m) (I.proper_hash m'))

/-- **The test of signatures, keys and messages** is the equation of pairings, for at least one key,
as many messages as keys, and messages with pairwise distinct points. -/
theorem holdsFor_iff {s : Signature G} (hs : s.Proper I) {keys : List (PublicKey G)}
    (hk : ∀ k ∈ keys, k.Valid I) (messages : List Bytes) :
    s.holdsFor messages keys = true ↔
      keys ≠ [] ∧ keys.length = messages.length ∧
        (messages.map fun m => I.signatures.value (G.hash m)).Nodup ∧
        I.pairing (I.keys.value G.generator) (s.value I) =
          ((keys.zip messages).map fun km =>
            I.pairing (km.1.value I) (I.signatures.value (G.hash km.2))).sum := by
  have hbalances := I.balances_iff s.point _ hs (proper_of_mem_zip hk messages)
  rw [List.zip_map, List.map_map] at hbalances
  simp only [holdsFor, any_isIdentity_eq_false hk, Bool.or_false]
  -- What is left are the cases that the test makes itself.
  by_cases hempty : keys = []
  · -- Nothing holds for no keys.
    simp only [hempty, List.isEmpty_nil, Bool.true_or, if_true, ne_eq, not_true_eq_false,
      false_and, Bool.false_eq_true]
  · by_cases hlength : keys.length = messages.length
    · -- The tests of the points and of the pairings remain.
      have hne : (keys.length != messages.length) = false := by
        rw [hlength, bne_self_eq_false]
      rw [List.isEmpty_eq_false_iff.2 hempty, hne, Bool.or_false, if_neg Bool.false_ne_true,
        Bool.and_eq_true, hashesDiffer_iff (I := I), List.zip_map, hbalances]
      exact ⟨fun ⟨hd, he⟩ => ⟨hempty, hlength, hd, he⟩, fun ⟨_, _, hd, he⟩ => ⟨hd, he⟩⟩
    · -- Nor for a number of messages of its own.
      rw [bne_iff_ne.2 hlength, Bool.or_true, if_pos rfl]
      exact ⟨fun h => absurd h Bool.false_ne_true, fun h => absurd h.2.1 hlength⟩

end Signature

end PairingSig
