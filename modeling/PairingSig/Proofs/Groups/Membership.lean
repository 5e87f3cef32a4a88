import PairingSig.Proofs.Groups.Standard

/-!
# Members of the standard groups

Keys and signatures over the standard curves whose points have the order of the groups, and where
they come from: reading, deriving, signing and adding up lead to members only, if messages are
hashed to members. Members are read back from their written form; the identity is no public key.

- **Points**: `Point.InGroup`, closed under addition and multiples;
- **Public keys**: `PublicKey.Member`, and `PublicKey.refused_of_isIdentity` for the one that a
  wiped private key has;
- **Signatures**: `Signature.Member`.
-/

namespace PairingSig

open Compressed (Form)

/-! ## Points -/

namespace Point

variable {F : Type} [Field F] [CurveConstant F]

/-- A triple of a point that the group order annihilates. -/
def InGroup [DecidableEq F] (P : Point F) : Prop :=
  ∃ A : (curve F).Point, P.Represents A ∧ groupOrder • A = 0

variable [DecidableEq F]

theorem inGroup_identity : (identity : Point F).InGroup :=
  ⟨0, represents_normal 0, nsmul_zero _⟩

variable [NoOrderTwo F] {P Q : Point F}

theorem InGroup.add (hP : P.InGroup) (hQ : Q.InGroup) : (P.add Q).InGroup := by
  obtain ⟨A, hA, hrA⟩ := hP
  obtain ⟨B, hB, hrB⟩ := hQ
  exact ⟨A + B, hA.add hB, by rw [nsmul_add, hrA, hrB, add_zero]⟩

theorem InGroup.multiple (hP : P.InGroup) (width n : Nat) : (P.multiple width n).InGroup := by
  obtain ⟨A, hA, hrA⟩ := hP
  exact ⟨_, hA.multiple width n, by rw [nsmul_left_comm, hrA, nsmul_zero]⟩

/-- Whether the quotients of a triple are on the curve and it passes the test for the subgroup. -/
def isMember (P : Point F) : Bool :=
  decide (P.z ≠ 0) && decide (OnCurve (P.x * P.z⁻¹) (P.y * P.z⁻¹)) && Compressed.inSubgroup P

theorem inGroup_of_isMember (h : P.isMember = true) : P.InGroup := by
  rw [isMember, Bool.and_eq_true, Bool.and_eq_true, decide_eq_true_iff, decide_eq_true_iff] at h
  obtain ⟨⟨hz, hcurve⟩, hsub⟩ := h
  have hP := represents_of_onCurve hz hcurve
  exact ⟨hcurve.point, hP, hP.inSubgroup_iff.1 hsub⟩

end Point

/-- The empty message is hashed to a point of the group. -/
theorem inGroup_hash_nil : Point.InGroup (HashToCurve.hash []) :=
  Point.inGroup_of_isMember (by decide +kernel)

/-! ## Forms -/

/-- Only points of the group have a form. -/
theorem nsmul_eq_zero_of_form {F : Type} [Field F] [CurveConstant F] [NoOrderTwo F] [Coordinate F]
    [CoordinateForm F] [DecidableEq F] {bs : Bytes} {A : (curve F).Point} (h : Form bs A) :
    groupOrder • A = 0 := by
  cases A with
  | zero => exact nsmul_zero _
  | some x y _ =>
    obtain ⟨-, -, -, -, _, horder⟩ := h
    exact horder

/-! ## Public keys -/

namespace PublicKey

/-- A key whose point is in the group and is not the identity. -/
def Member (k : PublicKey standardGroups) : Prop :=
  ∃ A : (curve Fp).Point, Point.Represents k.point A ∧ groupOrder • A = 0 ∧ A ≠ 0

theorem isIdentity_iff {k : PublicKey standardGroups} {A : (curve Fp).Point}
    (h : Point.Represents k.point A) : k.isIdentity = true ↔ A = 0 :=
  h.isIdentity_iff

theorem member_of_decode {bs : Bytes} {k : PublicKey standardGroups} (h : decode bs = .ok k) :
    k.Member := by
  obtain ⟨hP, hid⟩ := decode_ok h
  obtain ⟨A, hform, heq⟩ := (Compressed.decode?_eq_some_iff (F := Fp)).1 hP
  have hk : Point.Represents k.point A := by
    rw [heq]
    exact Point.represents_normal A
  refine ⟨A, hk, nsmul_eq_zero_of_form hform, fun hA => ?_⟩
  exact Bool.false_ne_true (hid.symm.trans ((isIdentity_iff hk).2 hA))

/-- A member is read back from its written form. -/
theorem Member.exists_decode {k : PublicKey standardGroups} (h : k.Member) :
    ∃ k' : PublicKey standardGroups, decode k.encode = .ok k' ∧ (k' == k) = true := by
  obtain ⟨A, hk, horder, hA⟩ := h
  have hform := form_encode hk horder
  refine ⟨⟨.normal A⟩, decode_of_form hform hA, ?_⟩
  rw [beq_iff, encode_eq_compressed]
  exact hform.encode_eq

/-- The identity has a form of its own, which is refused, and it verifies nothing. -/
theorem refused_of_isIdentity {k : PublicKey standardGroups} (h : k.isIdentity = true) :
    k.encode = 0xc0 :: List.replicate 47 0 ∧
      (decode k.encode : Except Fault (PublicKey standardGroups)) =
        .error (.point .identityPublicKey) ∧
      ∀ (message : Bytes) (s : Signature standardGroups), k.verifies message s = false := by
  have hencode : k.encode = 0xc0 :: List.replicate 47 0 := by
    rw [k.encode_eq_compressed]
    exact if_pos h
  refine ⟨hencode, ?_, fun message s => ?_⟩
  · rw [hencode]
    exact (Verdict.identity rfl).decode_eq
  · -- The test gives up at an identity before it looks at the message.
    simp only [verifies, Signature.holdsFor, List.any_cons, h, Bool.true_or, Bool.or_true, if_true]

end PublicKey

namespace PrivateKey

theorem nsmul_baseGenerator : groupOrder • onCurve_baseGenerator.point = 0 :=
  (Point.represents_normal onCurve_baseGenerator.point).inSubgroup_iff.1 (by decide +kernel)

theorem addOrderOf_baseGenerator : addOrderOf onCurve_baseGenerator.point = groupOrder :=
  addOrderOf_eq_prime nsmul_baseGenerator (WeierstrassCurve.Affine.Point.some_ne_zero _)

/-- A key multiplies by the number that it writes. -/
theorem represents_multiple {F : Type} [Field F] [CurveConstant F] [NoOrderTwo F] [DecidableEq F]
    {P : Point F} {A : (curve F).Point} (hP : P.Represents A) (x : PrivateKey) :
    (P.multiple 255 x.scalar.val).Represents (Bytes.toNat x.encode • A) := by
  have hlt : x.scalar.val < 2 ^ 255 := Nat.lt_trans x.scalar.isLt (by decide)
  have h := hP.multiple 255 x.scalar.val
  rw [Nat.mod_eq_of_lt hlt] at h
  rwa [← val_scalar]

/-- The public key of a private key represents the multiple of the generator by its number. -/
theorem represents_publicKey (x : PrivateKey) :
    Point.Represents (x.publicKey standardGroups).point
      (Bytes.toNat x.encode • onCurve_baseGenerator.point) :=
  represents_multiple (Point.represents_normal onCurve_baseGenerator.point) x

theorem nsmul_baseGenerator_ne_zero {x : PrivateKey} (hpos : 0 < Bytes.toNat x.encode) :
    Bytes.toNat x.encode • onCurve_baseGenerator.point ≠ 0 := by
  intro h
  -- The order of the generator would divide a number below it.
  have hdvd := addOrderOf_dvd_of_nsmul_eq_zero h
  rw [addOrderOf_baseGenerator] at hdvd
  exact absurd (Nat.le_of_dvd hpos hdvd) (Nat.not_le.2 x.toNat_bytes_lt)

/-- The group has prime order, so smaller multiples of the generator are not the identity. -/
theorem member_publicKey {x : PrivateKey} (hpos : 0 < Bytes.toNat x.encode) :
    (x.publicKey standardGroups).Member := by
  refine ⟨_, x.represents_publicKey, ?_, nsmul_baseGenerator_ne_zero hpos⟩
  rw [nsmul_left_comm, nsmul_baseGenerator, nsmul_zero]

theorem toNat_encode_wiped : Bytes.toNat wiped.encode = 0 := by
  -- Zeros write the same number in either order.
  show Bytes.toNat (List.replicate 32 0) = 0
  rw [← Bytes.toNatLittle_reverse, List.reverse_replicate, Bytes.toNatLittle_zeros]

theorem isIdentity_publicKey_wiped : (wiped.publicKey standardGroups).isIdentity = true := by
  rw [PublicKey.isIdentity_iff wiped.represents_publicKey, toNat_encode_wiped, zero_nsmul]

end PrivateKey

/-! ## Signatures -/

namespace Signature

/-- A signature whose point is in the group. -/
def Member (s : Signature standardGroups) : Prop :=
  Point.InGroup (F := Fp2) s.point

theorem member_of_decode {bs : Bytes} {s : Signature standardGroups} (h : decode bs = .ok s) :
    s.Member := by
  obtain ⟨A, hform, heq⟩ := (Compressed.decode?_eq_some_iff (F := Fp2)).1 (decode_ok h)
  refine ⟨A, ?_, nsmul_eq_zero_of_form hform⟩
  rw [heq]
  exact Point.represents_normal A

/-- A member is read back from its written form, also if it is the identity. -/
theorem Member.exists_decode {s : Signature standardGroups} (h : s.Member) :
    ∃ s' : Signature standardGroups, decode s.encode = .ok s' ∧ (s' == s) = true := by
  obtain ⟨A, hs, horder⟩ := h
  have hform := form_encode hs horder
  refine ⟨⟨.normal A⟩, decode_of_form hform, ?_⟩
  rw [beq_iff, encode_eq_compressed]
  exact hform.encode_eq

/-- A key of any value signs a message with a member if the message is hashed to one. -/
theorem member_sign {message : Bytes} (h : Point.InGroup (HashToCurve.hash message))
    (x : PrivateKey) : (x.sign standardGroups message).Member := by
  show Point.InGroup (Point.multiple 255 x.scalar.val (HashToCurve.hash message))
  exact h.multiple 255 x.scalar.val

theorem member_sum {sigs : List (Signature standardGroups)} (h : ∀ s ∈ sigs, s.Member) :
    (sum sigs).Member := by
  -- The sum so far is in the group wherever it starts within.
  have hfold : ∀ P : Point Fp2, P.InGroup →
      (sigs.foldl (fun Q (s : Signature standardGroups) => Point.add Q s.point) P).InGroup := by
    induction sigs with
    | nil => exact fun P hP => hP
    | cons s rest ih =>
      intro P hP
      have hadd : (P.add s.point).InGroup := hP.add (h s List.mem_cons_self)
      exact ih (fun t ht => h t (List.mem_cons_of_mem s ht)) _ hadd
  exact hfold _ Point.inGroup_identity

theorem member_aggregate {sigs : List (Signature standardGroups)} {s : Signature standardGroups}
    (h : ∀ s ∈ sigs, s.Member) (hs : aggregate sigs = .ok s) : s.Member := by
  obtain ⟨-, rfl⟩ := aggregate_eq_ok_iff.1 hs
  exact member_sum h

end Signature

end PairingSig
