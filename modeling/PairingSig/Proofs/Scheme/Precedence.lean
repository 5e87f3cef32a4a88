import Mathlib.Order.Bounds.Basic
import PairingSig.Proofs.Scheme.Verification

/-!
# Which fault an aggregate verification reports

Keys, messages and signature may be faulty in several ways at once. The fault that is reported is
that of the first check that fails, and of several faults that one check finds, the one that stands
first in its list.

- **Repeated messages**: `RepeatsAt` are the places of repeats, and `firstRepeat?_eq_some_iff` says
  that the scan finds the least of them;
- **Verdicts**: `AggregateVerdict` lists the checks in their order, each under what the checks
  before it have found; `AggregateVerdict.result_eq` and `exists_aggregateVerdict`, with
  `checked_of_accepted` for an accepted aggregate;
- **The test of the pairings**: `PairingGroups.retested` puts another test in its place, which makes
  no difference where a message is repeated (`aggregateVerify_retested`);
- **Precedence**: `aggregateVerify_result_iff`.
-/

namespace PairingSig

namespace Scheme

variable {G : PairingGroups}

/-! ## Repeated messages -/

/-- The message at a place equals an earlier one. -/
def RepeatsAt (messages : List Bytes) (i : Nat) : Prop :=
  ∃ j < i, ∃ m, messages[j]? = some m ∧ messages[i]? = some m

theorem not_repeatsAt_of_nodup {messages : List Bytes} (h : messages.Nodup) (i : Nat) :
    ¬ RepeatsAt messages i := by
  rintro ⟨j, hj, m, hm, hm'⟩
  have hlt : j < messages.length := (List.getElem?_eq_some_iff.1 hm).1
  exact Nat.ne_of_lt hj ((List.getElem?_inj hlt h).1 (hm.trans hm'.symm))

/-- What comes later does not make a message a repeat. -/
theorem repeatsAt_append_iff {messages later : List Bytes} {i : Nat} (hi : i < messages.length) :
    RepeatsAt (messages ++ later) i ↔ RepeatsAt messages i := by
  have hread : ∀ j ≤ i, (messages ++ later)[j]? = messages[j]? := fun j hj =>
    List.getElem?_append_left (Nat.lt_of_le_of_lt hj hi)
  constructor
  · rintro ⟨j, hj, m, hm, hm'⟩
    exact ⟨j, hj, m, by rwa [hread j hj.le] at hm, by rwa [hread i le_rfl] at hm'⟩
  · rintro ⟨j, hj, m, hm, hm'⟩
    exact ⟨j, hj, m, by rwa [hread j hj.le], by rwa [hread i le_rfl]⟩

/-- A message that was seen is the first repeat if all seen so far are distinct. -/
theorem isLeast_repeatsAt {seen : List Bytes} (hseen : seen.Nodup) {m : Bytes} (hm : m ∈ seen)
    (rest : List Bytes) :
    IsLeast {i | RepeatsAt (seen ++ m :: rest) i} seen.length := by
  constructor
  -- The place is one of a repeat.
  · obtain ⟨j, hj⟩ := List.mem_iff_getElem?.1 hm
    have hlt : j < seen.length := (List.getElem?_eq_some_iff.1 hj).1
    refine ⟨j, hlt, m, ?_, ?_⟩
    · rw [List.getElem?_append_left hlt, hj]
    · rw [List.getElem?_append_right le_rfl, Nat.sub_self, List.getElem?_cons_zero]
  -- At an earlier place only messages that were seen are compared.
  · intro i hi
    by_contra hlt
    exact not_repeatsAt_of_nodup hseen i ((repeatsAt_append_iff (Nat.not_le.1 hlt)).1 hi)

/-- The scan keeps the messages before the place it has reached, last one first, and so far they are
pairwise distinct. -/
theorem firstRepeatFrom_eq_some_iff {seen : List Bytes} (hseen : seen.Nodup) (rest : List Bytes)
    (i : Nat) :
    firstRepeatFrom seen.length seen rest = some i ↔
      IsLeast {i | RepeatsAt (seen.reverse ++ rest) i} i := by
  have hreverse : seen.reverse.Nodup := List.nodup_reverse.2 hseen
  induction rest generalizing seen with
  | nil =>
    refine iff_of_false (fun h => by cases h) ?_
    rintro ⟨h, -⟩
    rw [List.append_nil] at h
    exact not_repeatsAt_of_nodup hreverse i h
  | cons m rest ih =>
    rw [firstRepeatFrom]
    split
    -- The scan ends here, at the least place.
    · rename_i hm
      have hleast := isLeast_repeatsAt hreverse (List.mem_reverse.2 hm) rest
      rw [List.length_reverse] at hleast
      constructor
      · intro h
        cases h
        exact hleast
      · intro h
        rw [h.unique hleast]
    -- It goes on, and the message joins those that were seen.
    · rename_i hm
      have hnodup : (m :: seen).Nodup := List.nodup_cons.2 ⟨hm, hseen⟩
      have h := ih hnodup (List.nodup_reverse.2 hnodup)
      rwa [List.reverse_cons, List.append_assoc, List.singleton_append] at h

/-- **The scan finds the least place** at which a message equals an earlier one. -/
theorem firstRepeat?_eq_some_iff (messages : List Bytes) (i : Nat) :
    firstRepeat? messages = some i ↔ IsLeast {i | RepeatsAt messages i} i :=
  firstRepeatFrom_eq_some_iff List.nodup_nil messages i

/-! ## Verdicts -/

variable (G) in
/-- Keys and a signature that can be read, and what they are read as. -/
structure ReadInputs (publicKeys : List Bytes) (signature : Bytes) (keys : List (PublicKey G))
    (s : Signature G) : Prop where
  keys_read : publicKeys.map PublicKey.decode = keys.map .ok
  signature_read : Signature.decode signature = .ok s

variable (G) in
/-- What an aggregate verification comes to. Each case holds once the checks of those above it have
been passed. -/
inductive AggregateVerdict (publicKeys messages : List Bytes) (signature : Bytes) :
    Except Fault Unit → Prop where
  /-- A key cannot be read; the first such key has this fault. -/
  | unreadableKey {i : Nat} {f : Fault} :
      FirstFault (PublicKey.decode (G := G)) publicKeys i f →
      AggregateVerdict publicKeys messages signature (.error f)
  /-- All keys can be read, but not the signature. -/
  | unreadableSignature {keys : List (PublicKey G)} {f : Fault} :
      publicKeys.map PublicKey.decode = keys.map .ok →
      (Signature.decode signature : Except Fault (Signature G)) = .error f →
      AggregateVerdict publicKeys messages signature (.error f)
  | noKeys {keys : List (PublicKey G)} {s : Signature G} :
      ReadInputs G publicKeys signature keys s → publicKeys = [] →
      AggregateVerdict publicKeys messages signature (.error .noPublicKeys)
  | countMismatch {keys : List (PublicKey G)} {s : Signature G} :
      ReadInputs G publicKeys signature keys s → publicKeys ≠ [] →
      publicKeys.length ≠ messages.length →
      AggregateVerdict publicKeys messages signature
        (.error (.countMismatch publicKeys.length messages.length))
  /-- A message equals an earlier one; its place is the least of such places. -/
  | repeated {keys : List (PublicKey G)} {s : Signature G} {i : Nat} :
      ReadInputs G publicKeys signature keys s → publicKeys ≠ [] →
      publicKeys.length = messages.length → IsLeast {i | RepeatsAt messages i} i →
      AggregateVerdict publicKeys messages signature (.error (.repeatedMessage i))
  /-- Only the test of keys, messages and signature fails. -/
  | rejected {keys : List (PublicKey G)} {s : Signature G} :
      ReadInputs G publicKeys signature keys s → publicKeys ≠ [] →
      publicKeys.length = messages.length → messages.Nodup → s.holdsFor messages keys = false →
      AggregateVerdict publicKeys messages signature (.error .signatureRejected)
  | accepted {keys : List (PublicKey G)} {s : Signature G} :
      ReadInputs G publicKeys signature keys s → publicKeys ≠ [] →
      publicKeys.length = messages.length → messages.Nodup → s.holdsFor messages keys = true →
      AggregateVerdict publicKeys messages signature (.ok ())

section

variable {publicKeys messages : List Bytes} {signature : Bytes} {keys : List (PublicKey G)}
  {s : Signature G}

theorem ReadInputs.length_eq (h : ReadInputs G publicKeys signature keys s) :
    keys.length = publicKeys.length := by
  rw [← List.length_map (PublicKey.decode (G := G)), h.keys_read, List.length_map]

theorem ReadInputs.eq_nil_iff (h : ReadInputs G publicKeys signature keys s) :
    keys = [] ↔ publicKeys = [] := by
  rw [← List.length_eq_zero_iff, h.length_eq, List.length_eq_zero_iff]

/-- Once everything has been read, the checks on keys and messages are left. -/
theorem ReadInputs.result_eq (h : ReadInputs G publicKeys signature keys s) :
    (aggregateVerify G publicKeys messages signature).result =
      (verifyDistinct keys messages s).result := by
  rw [result_aggregateVerify, mapM_eq_ok_of_map_eq h.keys_read, h.signature_read]
  rfl

/-- For at least one key and as many distinct messages, the test is left. -/
theorem ReadInputs.result_eq_ite (h : ReadInputs G publicKeys signature keys s)
    (hne : publicKeys ≠ []) (hcount : publicKeys.length = messages.length)
    (hnodup : messages.Nodup) :
    (aggregateVerify G publicKeys messages signature).result =
      if s.holdsFor messages keys then .ok () else .error .signatureRejected := by
  rw [h.result_eq]
  exact result_verifyDistinct (mt h.eq_nil_iff.1 hne) (h.length_eq.trans hcount) hnodup s

/-- The verification ends by its verdict. -/
theorem AggregateVerdict.result_eq {r : Except Fault Unit}
    (h : AggregateVerdict G publicKeys messages signature r) :
    (aggregateVerify G publicKeys messages signature).result = r := by
  cases h with
  -- What cannot be read ends the verification where it is read.
  | unreadableKey hkey =>
    rw [result_aggregateVerify, mapM_eq_error_iff.2 ⟨_, hkey⟩]
    rfl
  | unreadableSignature hkeys hs =>
    rw [result_aggregateVerify, mapM_eq_ok_of_map_eq hkeys, hs]
    rfl
  -- Everything was read; now the keys are counted and the messages compared.
  | noKeys hread hempty =>
    simp [hread.result_eq, verifyDistinct, hread.eq_nil_iff.2 hempty]
  | countMismatch hread hne hcount =>
    simp [hread.result_eq, verifyDistinct, hread.eq_nil_iff, hread.length_eq, hne, hcount]
  | repeated hread hne hcount hleast =>
    simp [hread.result_eq, verifyDistinct, hread.eq_nil_iff, hread.length_eq, hne, hcount,
      (firstRepeat?_eq_some_iff messages _).2 hleast]
  -- The test is left.
  | rejected hread hne hcount hnodup hholds =>
    rw [hread.result_eq_ite hne hcount hnodup, hholds, if_neg Bool.false_ne_true]
  | accepted hread hne hcount hnodup hholds =>
    rw [hread.result_eq_ite hne hcount hnodup, if_pos hholds]

/-- What was read is checked one thing after the other, and one check decides. -/
theorem ReadInputs.exists_aggregateVerdict (h : ReadInputs G publicKeys signature keys s) :
    ∃ r, AggregateVerdict G publicKeys messages signature r := by
  by_cases hempty : publicKeys = []
  · exact ⟨_, .noKeys h hempty⟩
  by_cases hcount : publicKeys.length = messages.length
  · -- Either the scan finds a repeat, or the messages are distinct and the test decides.
    cases hscan : firstRepeat? messages with
    | some i =>
      exact ⟨_, .repeated h hempty hcount ((firstRepeat?_eq_some_iff messages i).1 hscan)⟩
    | none =>
      have hnodup := (firstRepeat?_eq_none_iff messages).1 hscan
      cases hholds : s.holdsFor messages keys with
      | false => exact ⟨_, .rejected h hempty hcount hnodup hholds⟩
      | true => exact ⟨_, .accepted h hempty hcount hnodup hholds⟩
  · exact ⟨_, .countMismatch h hempty hcount⟩

end

/-- There always is a verdict. -/
theorem exists_aggregateVerdict (publicKeys messages : List Bytes) (signature : Bytes) :
    ∃ r, AggregateVerdict G publicKeys messages signature r := by
  cases hkeys : (publicKeys.mapM PublicKey.decode : Except Fault (List (PublicKey G))) with
  | error f =>
    obtain ⟨i, hfirst⟩ := mapM_eq_error_iff.1 hkeys
    exact ⟨_, .unreadableKey hfirst⟩
  | ok keys =>
    have hmap := map_eq_of_mapM_eq_ok hkeys
    cases hs : (Signature.decode signature : Except Fault (Signature G)) with
    | error f => exact ⟨_, .unreadableSignature hmap hs⟩
    | ok s => exact ReadInputs.exists_aggregateVerdict ⟨hmap, hs⟩

/-- What was checked before an aggregate is accepted. -/
theorem checked_of_accepted {publicKeys messages : List Bytes} {signature : Bytes}
    (h : (aggregateVerify G publicKeys messages signature).result = .ok ()) :
    ∃ (keys : List (PublicKey G)) (s : Signature G),
      ReadInputs G publicKeys signature keys s ∧ publicKeys ≠ [] ∧
        publicKeys.length = messages.length ∧ messages.Nodup ∧
        s.holdsFor messages keys = true := by
  obtain ⟨r, hr⟩ := exists_aggregateVerdict (G := G) publicKeys messages signature
  rw [hr.result_eq] at h
  subst h
  -- Only one of the verdicts accepts.
  cases hr with
  | accepted hread hne hcount hnodup hholds => exact ⟨_, _, hread, hne, hcount, hnodup, hholds⟩

end Scheme

/-! ## The test of the pairings -/

/-- Groups with another point for each message and another test of pairings. -/
def PairingGroups.retested (G : PairingGroups) (hash : Bytes → G.G₂)
    (balances : G.G₂ → List (G.G₁ × G.G₂) → Bool) : PairingGroups :=
  { G with hash := hash, balances := balances }

section

variable {G : PairingGroups} (hash : Bytes → G.G₂) (balances : G.G₂ → List (G.G₁ × G.G₂) → Bool)

/-- Keys are read without the test. -/
theorem PublicKey.decode_retested (bs : Bytes) :
    (decode bs : Except Fault (PublicKey (G.retested hash balances))) =
      (decode bs : Except Fault (PublicKey G)).map fun k => ⟨k.point⟩ := by
  -- The reader takes the same way on both sides, whichever of its ways that is.
  by_cases hl : bs.length = publicKeyLength
  · cases hP : G.decode₁? bs with
    | none =>
      rw [decode_of_none hl hP, decode_of_none (G := G.retested hash balances) hl hP]
      rfl
    | some P =>
      cases hid : G.isIdentity₁ P with
      | false =>
        rw [decode_eq_ok hl hP hid, decode_eq_ok (G := G.retested hash balances) hl hP hid]
        rfl
      | true =>
        rw [decode_of_identity hl hP hid,
          decode_of_identity (G := G.retested hash balances) hl hP hid]
        rfl
  · rw [decode_of_length_ne hl, decode_of_length_ne hl]
    rfl

theorem Signature.decode_retested (bs : Bytes) :
    (decode bs : Except Fault (Signature (G.retested hash balances))) =
      (decode bs : Except Fault (Signature G)).map fun s => ⟨s.point⟩ := by
  by_cases hl : bs.length = signatureLength
  · cases hP : G.decode₂? bs with
    | none =>
      rw [decode_of_none hl hP, decode_of_none (G := G.retested hash balances) hl hP]
      rfl
    | some P =>
      rw [decode_eq_ok hl hP, decode_eq_ok (G := G.retested hash balances) hl hP]
      rfl
  · rw [decode_of_length_ne hl, decode_of_length_ne hl]
    rfl

/-- **Repeated messages never come to the test**: with any other test, and with any other points of
the messages, the outcome is the same. -/
theorem Scheme.aggregateVerify_retested {messages : List Bytes} (hrepeat : ¬ messages.Nodup)
    (publicKeys : List Bytes) (signature : Bytes) :
    aggregateVerify (G.retested hash balances) publicKeys messages signature =
      aggregateVerify G publicKeys messages signature := by
  -- The scan finds a repeat, so neither side goes on to its test.
  obtain ⟨i, hi⟩ := exists_firstRepeat? hrepeat
  unfold aggregateVerify
  rw [funext (PublicKey.decode_retested hash balances), mapM_map, Signature.decode_retested]
  cases (publicKeys.mapM PublicKey.decode : Except Fault (List (PublicKey G))) with
  | error f => rfl
  | ok keys =>
    cases (Signature.decode signature : Except Fault (Signature G)) with
    | error f => rfl
    | ok s => simp [Except.map, verifyDistinct, hi]

end

/-! ## Precedence -/

/-- **The fault of the first check that fails is reported**, for any keys, messages and signature,
and there is no other way to end. An accepted aggregate has at least one key, none of them the
identity, and as many messages, which are pairwise distinct. Repeated messages never come to the
test: it may be replaced by any other, together with the points of the messages, and the outcome
stays the same. -/
theorem Scheme.aggregateVerify_result_iff (G : PairingGroups) (publicKeys messages : List Bytes)
    (signature : Bytes) :
    (∀ r, (aggregateVerify G publicKeys messages signature).result = r ↔
        AggregateVerdict G publicKeys messages signature r) ∧
    ((aggregateVerify G publicKeys messages signature).result = .ok () →
      publicKeys ≠ [] ∧ publicKeys.length = messages.length ∧ messages.Nodup ∧
        ∃ keys : List (PublicKey G), publicKeys.map PublicKey.decode = keys.map .ok ∧
          ∀ k ∈ keys, k.isIdentity = false) ∧
    (¬ messages.Nodup → ∀ hash balances,
      aggregateVerify (G.retested hash balances) publicKeys messages signature =
        aggregateVerify G publicKeys messages signature) := by
  obtain ⟨r, hr⟩ := exists_aggregateVerdict (G := G) publicKeys messages signature
  refine ⟨fun r' => ⟨?_, AggregateVerdict.result_eq⟩, ?_, ?_⟩
  -- The verification has a verdict and ends by it, so it has no other.
  · rintro rfl
    rwa [hr.result_eq]
  · intro hok
    obtain ⟨keys, s, hread, hne, hcount, hnodup, -⟩ := checked_of_accepted hok
    refine ⟨hne, hcount, hnodup, keys, hread.keys_read, fun k hk => ?_⟩
    -- The reader has refused the identity.
    obtain ⟨w, -, hw⟩ := exists_element_of_map_eq hread.keys_read hk
    exact (PublicKey.decode_ok hw).2
  · intro hrepeat hash balances
    exact aggregateVerify_retested hash balances hrepeat publicKeys signature

/-- A signer is accepted, and refused when the message and the key are given twice. -/
theorem Scheme.aggregateVerify_result_iff_sample :
    let key := (sampleSigner.publicKey sampleGroups).encode
    let signature := (sampleSigner.sign sampleGroups []).encode
    (aggregateVerify sampleGroups [key] [[]] signature).result = .ok () ∧
    (∃ keys : List (PublicKey sampleGroups), [key].map PublicKey.decode = keys.map .ok ∧
      ∀ k ∈ keys, k.isIdentity = false) ∧
    ¬ ([[], []] : List Bytes).Nodup ∧
    (aggregateVerify sampleGroups [key, key] [[], []] signature).result =
      .error (.repeatedMessage 1) ∧
    ∀ hash balances,
      aggregateVerify (sampleGroups.retested hash balances) [key, key] [[], []] signature =
        aggregateVerify sampleGroups [key, key] [[], []] signature := by
  intro key signature
  obtain ⟨k, hk, hderived⟩ := exists_derived sampleInterpretation decode_sampleSigner
  obtain ⟨s, hs, hproper, hvalue⟩ :=
    Signature.decode_encode (sampleSigner.proper_sign sampleInterpretation [])
  have hholds : s.holdsFor [[]] [k] = true := (verifies_derived_iff hderived hproper []).2 hvalue
  have hone : [key].map PublicKey.decode = [k].map .ok := by
    simp only [List.map_cons, List.map_nil, key, hk]
  have htwo : [key, key].map PublicKey.decode = [k, k].map .ok := by
    simp only [List.map_cons, List.map_nil, key, hk]
  -- The signer alone, and then twice.
  obtain ⟨hiff, hok, -⟩ := aggregateVerify_result_iff sampleGroups [key] [[]] signature
  have haccepted : (aggregateVerify sampleGroups [key] [[]] signature).result = .ok () :=
    (hiff _).2 (.accepted ⟨hone, hs⟩ (List.cons_ne_nil _ _) rfl
      (List.nodup_singleton _) hholds)
  have hrepeat : ¬ ([[], []] : List Bytes).Nodup := by decide
  obtain ⟨hiff', -, hretested⟩ :=
    aggregateVerify_result_iff sampleGroups [key, key] [[], []] signature
  obtain ⟨-, -, -, hkeys⟩ := hok haccepted
  exact ⟨haccepted, hkeys, hrepeat,
    (hiff' _).2 (.repeated ⟨htwo, hs⟩ (List.cons_ne_nil _ _) rfl
      ((firstRepeat?_eq_some_iff _ _).1 rfl)), hretested hrepeat⟩

end PairingSig
