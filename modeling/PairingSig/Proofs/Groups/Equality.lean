import PairingSig.Proofs.Groups.Membership
import PairingSig.Proofs.HashToCurve.OnCurve
import PairingSig.Proofs.Pairing.Classes

/-!
# Equal values are interchangeable

Keys and signatures hold triples, and the triple of a point depends on how it was computed. Two
values count as equal when they are written alike. For all values that the operations yield this is
equality of points; and no operation tells apart two values that are equal.

- **Values**: `PublicKey.Obtained` and `Signature.Obtained` list the ways in which values come
  about; all of them lead to triples of points (`Obtained.exists_represents`);
- **Equality**: `PublicKey.beq_iff_point` and `Signature.beq_iff_point`;
- **Verification**: `Signature.holdsFor_congr`, of which `PublicKey.verifies_congr` is a case;
- **Sums**: `Signature.sum_congr`, `Signature.sum_beq`;
- the result is `equality_standard`.
-/

namespace PairingSig

variable {G : PairingGroups}

/-! ## Values -/

/-- The public keys that can be obtained. -/
inductive PublicKey.Obtained : PublicKey G → Prop where
  | read {bs : Bytes} {k : PublicKey G} : PublicKey.decode bs = .ok k → Obtained k
  /-- The public key of a private key, of a wiped one as well. -/
  | derived (x : PrivateKey) : Obtained (x.publicKey G)

/-- The signatures that can be obtained. -/
inductive Signature.Obtained : Signature G → Prop where
  | read {bs : Bytes} {s : Signature G} : Signature.decode bs = .ok s → Obtained s
  | signed (x : PrivateKey) (message : Bytes) : Obtained (x.sign G message)
  | aggregated {sigs : List (Signature G)} {s : Signature G} :
      (∀ t ∈ sigs, Obtained t) → Signature.aggregate sigs = .ok s → Obtained s

/-- What is obtained is a triple of a point of the curve, maybe of the identity. -/
theorem PublicKey.Obtained.exists_represents {k : PublicKey standardGroups} (h : k.Obtained) :
    ∃ A : (curve Fp).Point, Point.Represents k.point A := by
  cases h with
  | read hk =>
    obtain ⟨A, hA, -⟩ := member_of_decode hk
    exact ⟨A, hA⟩
  | derived x => exact ⟨_, x.represents_publicKey⟩

theorem Signature.exists_represents_sum {sigs : List (Signature standardGroups)}
    (h : ∀ s ∈ sigs, ∃ B : (curve Fp2).Point, Point.Represents s.point B) :
    ∃ B : (curve Fp2).Point, Point.Represents (sum sigs).point B := by
  -- After each addend the sum so far is still a triple of some point.
  refine List.foldlRecOn (motive := fun P => ∃ B : (curve Fp2).Point, Point.Represents P B) sigs _
    ⟨0, Point.represents_normal 0⟩ ?_
  rintro P ⟨A, hA⟩ s hs
  obtain ⟨B, hB⟩ := h s hs
  exact ⟨A + B, Point.Represents.add hA hB⟩

theorem Signature.Obtained.exists_represents {s : Signature standardGroups} (h : s.Obtained) :
    ∃ B : (curve Fp2).Point, Point.Represents s.point B := by
  induction h with
  | read hs =>
    obtain ⟨B, hB, -⟩ := member_of_decode hs
    exact ⟨B, hB⟩
  | signed x message =>
    -- A message may be hashed to the identity, but to nothing outside the curve.
    obtain ⟨B, hB⟩ := HashToCurve.exists_represents_hash message
    exact ⟨_, PrivateKey.represents_multiple hB x⟩
  | aggregated _ hs ih =>
    obtain ⟨-, rfl⟩ := aggregate_eq_ok_iff.1 hs
    exact exists_represents_sum ih

/-! ## Equality -/

/-- **Public keys are equal when their points are.** -/
theorem PublicKey.beq_iff_point {a b : PublicKey standardGroups} (ha : a.Obtained)
    (hb : b.Obtained) : (a == b) = true ↔
      ∃ A : (curve Fp).Point, Point.Represents a.point A ∧ Point.Represents b.point A := by
  rw [beq_iff, encode_eq_compressed, encode_eq_compressed]
  exact Compressed.encode_eq_iff_exists ha.exists_represents hb.exists_represents

/-- **Signatures are equal when their points are.** -/
theorem Signature.beq_iff_point {s t : Signature standardGroups} (hs : s.Obtained)
    (ht : t.Obtained) : (s == t) = true ↔
      ∃ B : (curve Fp2).Point, Point.Represents s.point B ∧ Point.Represents t.point B := by
  rw [beq_iff, encode_eq_compressed, encode_eq_compressed]
  exact Compressed.encode_eq_iff_exists hs.exists_represents ht.exists_represents

theorem PublicKey.proportional_of_beq {a b : PublicKey standardGroups} (ha : a.Obtained)
    (hb : b.Obtained) (h : (a == b) = true) : Point.Proportional (F := Fp) a.point b.point := by
  obtain ⟨A, hA, hA'⟩ := (beq_iff_point ha hb).1 h
  exact hA.proportional hA'

theorem Signature.proportional_of_beq {s t : Signature standardGroups} (hs : s.Obtained)
    (ht : t.Obtained) (h : (s == t) = true) : Point.Proportional (F := Fp2) s.point t.point := by
  obtain ⟨B, hB, hB'⟩ := (beq_iff_point hs ht).1 h
  exact hB.proportional hB'

/-! ## Verification -/

theorem balances_congr {s s' : standardGroups.G₂}
    {pairs pairs' : List (standardGroups.G₁ × standardGroups.G₂)}
    (hs : Point.Proportional (F := Fp2) s s') (h : List.Forall₂ Pairing.SamePair pairs pairs') :
    standardGroups.balances s pairs = standardGroups.balances s' pairs' := by
  -- Only the name of the test may be seen here; comparing its values would run the loop.
  dsimp only [standardGroups]
  exact pairingsBalance_congr hs h

theorem PublicKey.isIdentity_congr {a b : PublicKey standardGroups}
    (h : Point.Proportional (F := Fp) a.point b.point) : b.isIdentity = a.isIdentity := by
  obtain ⟨k, hk, hpoint⟩ := h
  exact (congrArg (Point.isIdentity (F := Fp)) hpoint).trans (Point.isIdentity_scale hk a.point)

section

variable {keys keys' : List (PublicKey standardGroups)}
  (h : List.Forall₂ (fun a b => Point.Proportional (F := Fp) a.point b.point) keys keys')

include h

theorem any_isIdentity_congr :
    keys'.any PublicKey.isIdentity = keys.any PublicKey.isIdentity := by
  induction h with
  | nil => rfl
  | cons hab _ ih => rw [List.any_cons, List.any_cons, PublicKey.isIdentity_congr hab, ih]

theorem samePair_zip (points : List (Point Fp2)) :
    List.Forall₂ Pairing.SamePair ((keys.map PublicKey.point).zip points)
      ((keys'.map PublicKey.point).zip points) := by
  induction h generalizing points with
  | nil => exact .nil
  | cons hab _ ih =>
    cases points with
    | nil => exact .nil
    | cons Q rest => exact .cons ⟨hab, .refl Q⟩ (ih rest)

/-- **The test of signatures, keys and messages sees points only.** -/
theorem Signature.holdsFor_congr {s t : Signature standardGroups}
    (hst : Point.Proportional (F := Fp2) s.point t.point) (messages : List Bytes) :
    s.holdsFor messages keys = t.holdsFor messages keys' := by
  have hempty : keys'.isEmpty = keys.isEmpty := by
    cases h <;> rfl
  have hbalances : standardGroups.balances s.point
      ((keys.map PublicKey.point).zip (messages.map standardGroups.hash)) =
        standardGroups.balances t.point
          ((keys'.map PublicKey.point).zip (messages.map standardGroups.hash)) :=
    balances_congr hst (samePair_zip h _)
  -- The points of the messages are compared with one another only, the same ones on both sides.
  simp only [holdsFor, hempty, h.length_eq, any_isIdentity_congr h, hbalances]

end

theorem PublicKey.verifies_congr {a b : PublicKey standardGroups} {s t : Signature standardGroups}
    (hab : Point.Proportional (F := Fp) a.point b.point)
    (hst : Point.Proportional (F := Fp2) s.point t.point) (message : Bytes) :
    a.verifies message s = b.verifies message t :=
  Signature.holdsFor_congr (.cons hab .nil) hst [message]

/-! ## Sums -/

namespace Signature

theorem beq_of_proportional {s t : Signature standardGroups}
    (h : Point.Proportional (F := Fp2) s.point t.point) : (s == t) = true := by
  obtain ⟨k, hk, hpoint⟩ := h
  rw [beq_iff, encode_eq_compressed, encode_eq_compressed]
  exact (Compressed.encode_scale hk s.point).symm.trans
    (congrArg (Compressed.encode (F := Fp2)) hpoint.symm)

theorem sum_congr {sigs sigs' : List (Signature standardGroups)}
    (h : List.Forall₂ (fun s t => Point.Proportional (F := Fp2) s.point t.point) sigs sigs') :
    Point.Proportional (F := Fp2) (sum sigs).point (sum sigs').point := by
  have hfold : Point.Proportional (F := Fp2)
      (sigs.foldl (fun P (s : Signature standardGroups) => Point.add P s.point) .identity)
      (sigs'.foldl (fun P (s : Signature standardGroups) => Point.add P s.point) .identity) :=
    List.rel_foldl (fun _ _ hsum _ _ hst => hsum.add hst) (.refl _) h
  exact hfold

/-- Signatures that are equal one by one add up to equal signatures. -/
theorem sum_beq {sigs sigs' : List (Signature standardGroups)} (hsigs : ∀ s ∈ sigs, s.Obtained)
    (hsigs' : ∀ s ∈ sigs', s.Obtained)
    (h : List.Forall₂ (fun s t => (s == t) = true) sigs sigs') :
    (sum sigs == sum sigs') = true := by
  apply beq_of_proportional
  apply sum_congr
  induction h with
  | nil => exact .nil
  | cons hst _ ih =>
    obtain ⟨hs, hrest⟩ := List.forall_mem_cons.1 hsigs
    obtain ⟨ht, hrest'⟩ := List.forall_mem_cons.1 hsigs'
    exact .cons (proportional_of_beq hs ht hst) (ih hrest hrest')

end Signature

/-- **Equality is equality of points, and no operation tells equal values apart.** However values
were obtained, and whatever triples they hold: keys are equal, and signatures are, exactly when they
stand for one point of their curve; an equal key verifies an equal signature of any message with the
same result; and lists of signatures that are equal one by one have equal sums. -/
theorem equality_standard :
    (∀ a b : PublicKey standardGroups, a.Obtained → b.Obtained →
      ((a == b) = true ↔
        ∃ A : (curve Fp).Point, Point.Represents a.point A ∧ Point.Represents b.point A)) ∧
    (∀ s t : Signature standardGroups, s.Obtained → t.Obtained →
      ((s == t) = true ↔
        ∃ B : (curve Fp2).Point, Point.Represents s.point B ∧ Point.Represents t.point B)) ∧
    (∀ (a b : PublicKey standardGroups) (s t : Signature standardGroups),
      a.Obtained → b.Obtained → s.Obtained → t.Obtained → (a == b) = true → (s == t) = true →
        ∀ message, a.verifies message s = b.verifies message t) ∧
    ∀ sigs sigs' : List (Signature standardGroups),
      (∀ s ∈ sigs, s.Obtained) → (∀ s ∈ sigs', s.Obtained) →
      List.Forall₂ (fun s t => (s == t) = true) sigs sigs' →
        (sigs = [] → Signature.aggregate sigs = .error .noSignatures ∧
          Signature.aggregate sigs' = .error .noSignatures) ∧
        (sigs ≠ [] → ∃ s t, Signature.aggregate sigs = .ok s ∧ Signature.aggregate sigs' = .ok t ∧
          (s == t) = true) := by
  refine ⟨fun a b ha hb => PublicKey.beq_iff_point ha hb,
    fun s t hs ht => Signature.beq_iff_point hs ht, ?_, ?_⟩
  · intro a b s t ha hb hs ht hab hst
    exact PublicKey.verifies_congr (PublicKey.proportional_of_beq ha hb hab)
      (Signature.proportional_of_beq hs ht hst)
  · intro sigs sigs' hsigs hsigs' h
    -- Both lists are empty, or neither is.
    refine ⟨?_, fun hne => ?_⟩
    · rintro rfl
      obtain rfl := List.forall₂_nil_left_iff.1 h
      exact ⟨rfl, rfl⟩
    · have hne' : sigs' ≠ [] := by
        rintro rfl
        exact hne (List.forall₂_nil_right_iff.1 h)
      exact ⟨_, _, Signature.aggregate_eq_ok_iff.2 ⟨hne, rfl⟩,
        Signature.aggregate_eq_ok_iff.2 ⟨hne', rfl⟩, Signature.sum_beq hsigs hsigs' h⟩

/-- Generators that were read, and the same points as they are computed: with the key of one, and as
a sum of one signature. -/
theorem equality_standard_generators :
    let a := (PrivateKey.ofScalar (.ofNat 1)).publicKey standardGroups
    let b : PublicKey standardGroups := ⟨baseGenerator⟩
    let s : Signature standardGroups := ⟨extensionGenerator⟩
    let t := Signature.sum [s]
    (a.Obtained ∧ b.Obtained ∧ a.point ≠ b.point ∧ (a == b) = true ∧
      ∃ A : (curve Fp).Point, Point.Represents a.point A ∧ Point.Represents b.point A) ∧
    (s.Obtained ∧ t.Obtained ∧ s.point ≠ t.point ∧ (s == t) = true ∧
      ∃ B : (curve Fp2).Point, Point.Represents s.point B ∧ Point.Represents t.point B) ∧
    (∀ message, a.verifies message s = b.verifies message t) ∧
    ∃ u v, Signature.aggregate [s, t] = .ok u ∧ Signature.aggregate [t, t] = .ok v ∧
      (u == v) = true := by
  intro a b s t
  obtain ⟨hkeys, hsignatures, hverifies, hsums⟩ := equality_standard
  -- The key of one is the generator, but as a product with one it is not normalized.
  have ha : a.Obtained := .derived _
  have hb : b.Obtained := .read (PublicKey.decode_of_form
    (Compressed.form_encode PrivateKey.nsmul_baseGenerator)
    (WeierstrassCurve.Affine.Point.some_ne_zero _))
  have hs : s.Obtained := .read (Signature.decode_of_form
    (Compressed.form_encode (A := onCurve_extensionGenerator.point)
      ((Point.represents_normal _).inSubgroup_iff.1 (by decide +kernel))))
  have ht : t.Obtained := .aggregated (List.forall_mem_singleton.2 hs) rfl
  -- The last coordinates show that the triples are different ones.
  have hab : (a == b) = true := by decide +kernel
  have hst : (s == t) = true := by decide +kernel
  have haz : Point.z (F := Fp) a.point ≠ Point.z (F := Fp) b.point := by decide +kernel
  have hsz : Point.z (F := Fp2) s.point ≠ Point.z (F := Fp2) t.point := by decide +kernel
  have hlists : List.Forall₂ (fun u v => (u == v) = true) [s, t] [t, t] :=
    .cons hst (.cons (Signature.beq_iff.2 rfl) .nil)
  exact ⟨⟨ha, hb, ne_of_apply_ne _ haz, hab, (hkeys a b ha hb).1 hab⟩,
    ⟨hs, ht, ne_of_apply_ne _ hsz, hst, (hsignatures s t hs ht).1 hst⟩,
    hverifies a b s t ha hb hs ht hab hst,
    (hsums _ _ (by simp [hs, ht]) (by simp [ht]) hlists).2 (List.cons_ne_nil _ _)⟩

end PairingSig
