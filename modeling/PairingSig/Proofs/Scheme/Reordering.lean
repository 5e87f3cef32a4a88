import Mathlib.Algebra.BigOperators.Group.List.Lemmas
import Mathlib.Data.List.Perm.Basic
import PairingSig.Proofs.Field.Tower
import PairingSig.Proofs.Groups.Membership
import PairingSig.Proofs.Scheme.Precedence

/-!
# The order of signers

A signer is a written key with a message. Aggregate verification goes through the signers three
times: it reads their keys, looks for repeated messages, and multiplies their pairings. What it
meets on the way depends on the order of the signers, and how it ends does not, except for the
place that a fault names.

- **Products of pairings**: `pairingsBalance_perm`, values of the loop are multiplied in a
  commutative monoid;
- **The test**: `Signature.holdsFor_perm`, for groups whose test is `Unordered`;
- **Readings**: `exists_readings_perm`, the keys of signers in another order are read as the same
  keys in that order;
- **Endings**: `SameEnding` lists what two verifications can come to, and `sameEnding` says that
  there is nothing else; the result is `aggregateVerify_perm`.
-/

namespace PairingSig

/-! ## Products of pairings -/

namespace Pairing

/-- The loop values of all pairs are multiplied before the final exponentiation. -/
theorem productIsOne_eq (pairs : List (Point Fp × Point Fp2)) :
    productIsOne pairs =
      decide (finalExponentiation (pairs.map fun pq => miller pq.1 pq.2).prod = 1) := by
  rw [productIsOne, List.prod_eq_foldl, List.foldl_map]

theorem productIsOne_perm {pairs pairs' : List (Point Fp × Point Fp2)} (h : pairs.Perm pairs') :
    productIsOne pairs = productIsOne pairs' := by
  rw [productIsOne_eq, productIsOne_eq, (h.map _).prod_eq]

end Pairing

theorem pairingsBalance_perm (s : Point Fp2) {pairs pairs' : List (Point Fp × Point Fp2)}
    (h : pairs.Perm pairs') : pairingsBalance s pairs = pairingsBalance s pairs' := by
  rw [pairingsBalance, pairingsBalance]
  exact Pairing.productIsOne_perm (h.cons _)

/-- The test of a product of pairings does not depend on the order of the pairs. -/
def PairingGroups.Unordered (G : PairingGroups) : Prop :=
  ∀ (s : G.G₂) (pairs pairs' : List (G.G₁ × G.G₂)), pairs.Perm pairs' →
    G.balances s pairs = G.balances s pairs'

theorem unordered_standardGroups : standardGroups.Unordered := by
  -- Only the name of the test may be seen here; comparing its values would run the loop.
  dsimp only [PairingGroups.Unordered, standardGroups]
  intro s pairs pairs' h
  exact pairingsBalance_perm s h

variable {G : PairingGroups}

/-! ## The test -/

/-- Keys may be rearranged together with their messages before a signature is tested. -/
theorem Signature.holdsFor_perm (hG : G.Unordered) (s : Signature G)
    {signers signers' : List (PublicKey G × Bytes)} (h : signers.Perm signers') :
    s.holdsFor (signers.map Prod.snd) (signers.map Prod.fst) =
      s.holdsFor (signers'.map Prod.snd) (signers'.map Prod.fst) := by
  -- The checks ahead of the pairings look at the keys and at the points as sets.
  have hempty : (signers.map Prod.fst).isEmpty = (signers'.map Prod.fst).isEmpty :=
    (h.map _).isEmpty_eq
  have hany : (signers.map Prod.fst).any PublicKey.isIdentity =
      (signers'.map Prod.fst).any PublicKey.isIdentity := (h.map _).any_eq
  have hdiffer : hashesDiffer G ((signers.map Prod.snd).map G.hash) =
      hashesDiffer G ((signers'.map Prod.snd).map G.hash) :=
    decide_eq_decide.2 (((h.map _).map _).map _).nodup_iff
  -- The pairings are those of keys with their own messages.
  have hbalances := hG s.point _ _ (h.map fun x => (x.1.point, G.hash x.2))
  simp only [holdsFor, hempty, hany, hdiffer, List.length_map, bne_self_eq_false]
  rw [List.map_map, List.map_map, List.map_map, List.map_map, List.zip_map', List.zip_map']
  simp only [Function.comp_def, hbalances]

namespace Scheme

/-! ## Readings -/

variable (G) in
/-- A written signer is read as a key with the same message. -/
structure Reads (written : Bytes × Bytes) (signer : PublicKey G × Bytes) : Prop where
  key : PublicKey.decode written.1 = .ok signer.1
  message : written.2 = signer.2

section

variable {written written' : List (Bytes × Bytes)} {signers : List (PublicKey G × Bytes)}

theorem keys_of_reads (h : List.Forall₂ (Reads G) written signers) :
    (written.map Prod.fst).map PublicKey.decode = (signers.map Prod.fst).map .ok := by
  induction h with
  | nil => rfl
  | cons hw _ ih => simp only [List.map_cons, hw.key, ih]

theorem messages_of_reads (h : List.Forall₂ (Reads G) written signers) :
    written.map Prod.snd = signers.map Prod.snd := by
  induction h with
  | nil => rfl
  | cons hw _ ih => simp only [List.map_cons, hw.message, ih]

theorem readInputs_of_reads (h : List.Forall₂ (Reads G) written signers) {signature : Bytes}
    {s : Signature G} (hs : Signature.decode signature = .ok s) :
    ReadInputs G (written.map Prod.fst) signature (signers.map Prod.fst) s :=
  ⟨keys_of_reads h, hs⟩

/-- In another order, signers are read as the same signers in that order. -/
theorem exists_readings_perm (hperm : written.Perm written')
    (h : ∀ w ∈ written, ∃ k : PublicKey G, PublicKey.decode w.1 = .ok k) :
    ∃ signers signers', List.Forall₂ (Reads G) written signers ∧
      List.Forall₂ (Reads G) written' signers' ∧ signers.Perm signers' := by
  obtain ⟨signers, hsigners⟩ : ∃ signers, List.Forall₂ (Reads G) written signers := by
    apply exists_forall₂
    intro w hw
    obtain ⟨k, hk⟩ := h w hw
    exact ⟨(k, w.2), hk, rfl⟩
  -- A reading does not look at neighbours, so it is carried along by the rearrangement.
  obtain ⟨signers', hsigners', hsame⟩ := List.perm_comp_forall₂ hperm.symm hsigners
  exact ⟨signers, signers', hsigners, hsigners', hsame.symm⟩

/-- If not all keys can be read, there is a first one that cannot. -/
theorem exists_firstFault
    (h : ¬ ∀ w ∈ written, ∃ k : PublicKey G, PublicKey.decode w.1 = .ok k) :
    ∃ i f, FirstFault (PublicKey.decode (G := G)) (written.map Prod.fst) i f := by
  cases hkeys : ((written.map Prod.fst).mapM PublicKey.decode : Except Fault (List (PublicKey G)))
    with
  | error f =>
    obtain ⟨i, hfirst⟩ := mapM_eq_error_iff.1 hkeys
    exact ⟨i, f, hfirst⟩
  | ok keys =>
    -- What was read as a whole was read one by one.
    refine absurd (fun w hw => ?_) h
    obtain ⟨k, -, hk⟩ :=
      exists_value_of_map_eq (map_eq_of_mapM_eq_ok hkeys) (List.mem_map_of_mem hw)
    exact ⟨k, hk⟩

end

/-! ## Endings -/

variable (G) in
/-- What the verifications of one signature for the same signers in two orders come to. -/
inductive SameEnding (written written' : List (Bytes × Bytes)) (signature : Bytes) :
    Except Fault Unit → Except Fault Unit → Prop where
  | accepted : SameEnding written written' signature (.ok ()) (.ok ())
  /-- Both find a repeated message, each the first one in its own order. -/
  | repeated {i j : Nat} :
      IsLeast {i | RepeatsAt (written.map Prod.snd) i} i →
      IsLeast {j | RepeatsAt (written'.map Prod.snd) j} j →
      SameEnding written written' signature (.error (.repeatedMessage i))
        (.error (.repeatedMessage j))
  | rejected :
      SameEnding written written' signature (.error .signatureRejected) (.error .signatureRejected)
  /-- Both meet a key that cannot be read, each the first one in its own order. -/
  | unreadableKey {i j : Nat} {f f' : Fault} :
      FirstFault (PublicKey.decode (G := G)) (written.map Prod.fst) i f →
      FirstFault (PublicKey.decode (G := G)) (written'.map Prod.fst) j f' →
      SameEnding written written' signature (.error f) (.error f')
  /-- Only the signature cannot be read. -/
  | unreadableSignature {f : Fault} :
      (Signature.decode signature : Except Fault (Signature G)) = .error f →
      SameEnding written written' signature (.error f) (.error f)
  | noKeys : written = [] →
      SameEnding written written' signature (.error .noPublicKeys) (.error .noPublicKeys)

section

variable {written written' : List (Bytes × Bytes)} {signature : Bytes}

/-- Only faults of keys and the places of repeats can differ. -/
theorem SameEnding.eq {r r' : Except Fault Unit} (h : SameEnding G written written' signature r r')
    (hkeys : ∀ w ∈ written, ∃ k : PublicKey G, PublicKey.decode w.1 = .ok k)
    (hnodup : (written.map Prod.snd).Nodup) : r = r' := by
  cases h with
  | repeated hi _ => exact absurd hi.1 (not_repeatsAt_of_nodup hnodup _)
  | unreadableKey hf _ =>
    -- The fault would be that of a key that can be read.
    obtain ⟨w, hw, hfault⟩ := List.mem_map.1 (List.mem_of_getElem? hf.fault)
    obtain ⟨x, hx, rfl⟩ := List.mem_map.1 hw
    obtain ⟨k, hk⟩ := hkeys x hx
    rw [hk] at hfault
    cases hfault
  | accepted => rfl
  | rejected => rfl
  | unreadableSignature _ => rfl
  | noKeys _ => rfl

/-- The verdict on signers of which all that is written can be read. -/
theorem result_of_reads {signers : List (PublicKey G × Bytes)} {s : Signature G}
    (h : List.Forall₂ (Reads G) written signers) (hs : Signature.decode signature = .ok s)
    (hne : written ≠ []) (hnodup : (written.map Prod.snd).Nodup) :
    (aggregateVerify G (written.map Prod.fst) (written.map Prod.snd) signature).result =
      if s.holdsFor (signers.map Prod.snd) (signers.map Prod.fst) then .ok ()
      else .error .signatureRejected := by
  rw [(readInputs_of_reads h hs).result_eq_ite (mt List.map_eq_nil_iff.1 hne)
    (by rw [List.length_map, List.length_map]) hnodup, messages_of_reads h]

/-- A repeat among the messages ends the verification of signers that can be read. -/
theorem exists_repeat_of_reads {signers : List (PublicKey G × Bytes)} {s : Signature G}
    (h : List.Forall₂ (Reads G) written signers) (hs : Signature.decode signature = .ok s)
    (hrepeat : ¬ (written.map Prod.snd).Nodup) :
    ∃ i, IsLeast {i | RepeatsAt (written.map Prod.snd) i} i ∧
      (aggregateVerify G (written.map Prod.fst) (written.map Prod.snd) signature).result =
        .error (.repeatedMessage i) := by
  obtain ⟨i, hi⟩ := exists_firstRepeat? hrepeat
  -- Where messages repeat there are some, and so there are keys.
  have hne : written.map Prod.fst ≠ [] := by
    rintro hnil
    obtain rfl := List.map_eq_nil_iff.1 hnil
    exact hrepeat List.nodup_nil
  have hleast := (firstRepeat?_eq_some_iff _ i).1 hi
  exact ⟨i, hleast, AggregateVerdict.result_eq (.repeated (readInputs_of_reads h hs) hne
    (by rw [List.length_map, List.length_map]) hleast)⟩

/-- Two orders of signers that can be read: the messages repeat in both, or the test decides. -/
theorem sameEnding_of_reads (hG : G.Unordered) (hperm : written.Perm written')
    {signers signers' : List (PublicKey G × Bytes)} {s : Signature G}
    (hreads : List.Forall₂ (Reads G) written signers)
    (hreads' : List.Forall₂ (Reads G) written' signers') (hsigners : signers.Perm signers')
    (hs : Signature.decode signature = .ok s) (hne : written ≠ []) :
    SameEnding G written written' signature
      (aggregateVerify G (written.map Prod.fst) (written.map Prod.snd) signature).result
      (aggregateVerify G (written'.map Prod.fst) (written'.map Prod.snd) signature).result := by
  by_cases hnodup : (written.map Prod.snd).Nodup
  · -- Nothing but the test is left, and it has the same answer.
    have hne' : written' ≠ [] := fun h => hne (List.perm_nil.1 (h ▸ hperm))
    rw [result_of_reads hreads hs hne hnodup,
      result_of_reads hreads' hs hne' ((hperm.map _).nodup_iff.1 hnodup),
      s.holdsFor_perm hG hsigners]
    split
    · exact .accepted
    · exact .rejected
  · -- A repeat stays one in any order, but it may be found at another place.
    obtain ⟨i, hi, hresult⟩ := exists_repeat_of_reads hreads hs hnodup
    obtain ⟨j, hj, hresult'⟩ :=
      exists_repeat_of_reads hreads' hs (mt (hperm.map _).nodup_iff.2 hnodup)
    rw [hresult, hresult']
    exact .repeated hi hj

/-- **Aggregate verification ends alike in any order** of the signers, if the test of the pairings
does. -/
theorem sameEnding (hG : G.Unordered) (hperm : written.Perm written') (signature : Bytes) :
    SameEnding G written written' signature
      (aggregateVerify G (written.map Prod.fst) (written.map Prod.snd) signature).result
      (aggregateVerify G (written'.map Prod.fst) (written'.map Prod.snd) signature).result := by
  by_cases hkeys : ∀ w ∈ written, ∃ k : PublicKey G, PublicKey.decode w.1 = .ok k
  -- All keys can be read, so it is for the signature and the messages to decide.
  · obtain ⟨signers, signers', hreads, hreads', hsigners⟩ := exists_readings_perm hperm hkeys
    cases hs : (Signature.decode signature : Except Fault (Signature G)) with
    | error f =>
      rw [AggregateVerdict.result_eq (.unreadableSignature (keys_of_reads hreads) hs),
        AggregateVerdict.result_eq (.unreadableSignature (keys_of_reads hreads') hs)]
      exact .unreadableSignature hs
    | ok s =>
      by_cases hempty : written = []
      · subst hempty
        obtain rfl := hperm.nil_eq
        rw [AggregateVerdict.result_eq (.noKeys (readInputs_of_reads hreads hs) rfl)]
        exact .noKeys rfl
      · exact sameEnding_of_reads hG hperm hreads hreads' hsigners hs hempty
  -- A signer without a readable key is met in the other order as well.
  · obtain ⟨i, f, hfirst⟩ := exists_firstFault hkeys
    have hkeys' : ¬ ∀ w ∈ written', ∃ k : PublicKey G, PublicKey.decode w.1 = .ok k :=
      fun h => hkeys fun w hw => h w (hperm.mem_iff.1 hw)
    obtain ⟨j, f', hfirst'⟩ := exists_firstFault hkeys'
    rw [AggregateVerdict.result_eq (.unreadableKey hfirst),
      AggregateVerdict.result_eq (.unreadableKey hfirst')]
    exact .unreadableKey hfirst hfirst'

end

/-- **The order of signers makes no difference.** Whatever signers are given, with keys and messages
rearranged together, the verification of a signature ends alike: accepted, at a repeated message,
with a rejected signature, at a key that cannot be read, or with the same other fault. If all keys
can be read and the messages are pairwise distinct, the results are equal. -/
theorem aggregateVerify_perm {written written' : List (Bytes × Bytes)}
    (hperm : written.Perm written') (signature : Bytes) :
    let result := fun signers : List (Bytes × Bytes) =>
      (aggregateVerify standardGroups (signers.map Prod.fst) (signers.map Prod.snd)
        signature).result
    SameEnding standardGroups written written' signature (result written) (result written') ∧
      ((∀ w ∈ written, ∃ k : PublicKey standardGroups, PublicKey.decode w.1 = .ok k) →
        (written.map Prod.snd).Nodup → result written = result written') := by
  intro result
  have hending := sameEnding unordered_standardGroups hperm signature
  exact ⟨hending, hending.eq⟩

/-- A message that is given twice is found at either place where it can come second, and signers of
different messages may be exchanged. -/
theorem aggregateVerify_perm_generator :
    let key := Compressed.encode baseGenerator
    let signature : Bytes := 0xc0 :: List.replicate 95 0
    let result := fun signers : List (Bytes × Bytes) =>
      (aggregateVerify standardGroups (signers.map Prod.fst) (signers.map Prod.snd)
        signature).result
    let twice := [(key, [1]), (key, [1]), (key, [2])]
    let twice' := [(key, [1]), (key, [2]), (key, [1])]
    let pair := [(key, [1]), (key, [2])]
    let pair' := [(key, [2]), (key, [1])]
    twice.Perm twice' ∧ result twice = .error (.repeatedMessage 1) ∧
    result twice' = .error (.repeatedMessage 2) ∧
    SameEnding standardGroups twice twice' signature (result twice) (result twice') ∧
    pair.Perm pair' ∧
    (∀ w ∈ pair, ∃ k : PublicKey standardGroups, PublicKey.decode w.1 = .ok k) ∧
    (pair.map Prod.snd).Nodup ∧ result pair = result pair' := by
  intro key signature result twice twice' pair pair'
  have htwice : twice.Perm twice' := .cons _ (.swap _ _ _)
  have hpair : pair.Perm pair' := .swap _ _ _
  have hkey : ∃ k : PublicKey standardGroups, PublicKey.decode key = .ok k :=
    ⟨_, PublicKey.decode_of_form (Compressed.form_encode PrivateKey.nsmul_baseGenerator)
      (WeierstrassCurve.Affine.Point.some_ne_zero _)⟩
  have hkeys : ∀ w ∈ pair, ∃ k : PublicKey standardGroups, PublicKey.decode w.1 = .ok k := by
    intro w hw
    simp only [pair, List.mem_cons, List.not_mem_nil, or_false] at hw
    obtain rfl | rfl := hw <;> exact hkey
  have hnodup : (pair.map Prod.snd).Nodup := by
    show ([[1], [2]] : List Bytes).Nodup
    decide
  exact ⟨htwice, by decide +kernel, by decide +kernel, (aggregateVerify_perm htwice signature).1,
    hpair, hkeys, hnodup, (aggregateVerify_perm hpair signature).2 hkeys hnodup⟩

end Scheme

end PairingSig
