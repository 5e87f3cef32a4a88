import PairingSig.Bls12381
import PairingSig.Proofs.Curve.Standard
import PairingSig.Proofs.Groups.Values

/-!
# Written keys and signatures of the standard groups

What the readers of public keys and of signatures answer on every string, and how points are
written.

- **Verdicts**: `PublicKey.Verdict` and `Signature.Verdict` say without the readers which strings
  are accepted, as what, and how the others are refused;
- **Reading**: `decode_standard_iff`, the readers answer by the verdicts;
- **Round trips**: `codec_standard`, a point has one written form, whatever triple represents it.
-/

namespace PairingSig

open Compressed (Spells Form)

/-! ## Verdicts -/

/-- What a string is as a public key. -/
inductive PublicKey.Verdict (bs : Bytes) : Except Fault (PublicKey standardGroups) → Prop where
  | length : bs.length ≠ 48 → Verdict bs (.error (.point (.publicKeyLength bs.length)))
  | identity : bs = 0xc0 :: List.replicate 47 0 → Verdict bs (.error (.point .identityPublicKey))
  | accepted {x y : Fp} : Spells bs x y → Verdict bs (.ok ⟨.affine x y⟩)
  | refused : bs.length = 48 → bs ≠ 0xc0 :: List.replicate 47 0 → (∀ x y : Fp, ¬ Spells bs x y) →
      Verdict bs (.error (.point .publicKey))

/-- What a string is as a signature; the identity is one. -/
inductive Signature.Verdict (bs : Bytes) : Except Fault (Signature standardGroups) → Prop where
  | length : bs.length ≠ 96 → Verdict bs (.error (.point (.signatureLength bs.length)))
  | identity : bs = 0xc0 :: List.replicate 95 0 → Verdict bs (.ok ⟨.identity⟩)
  | accepted {x y : Fp2} : Spells bs x y → Verdict bs (.ok ⟨.affine x y⟩)
  | refused : bs.length = 96 → bs ≠ 0xc0 :: List.replicate 95 0 → (∀ x y : Fp2, ¬ Spells bs x y) →
      Verdict bs (.error (.point .signature))

/-! ## Reading -/

namespace PublicKey

theorem Verdict.decode_eq {bs : Bytes} {r : Except Fault (PublicKey standardGroups)}
    (h : Verdict bs r) : decode bs = r := by
  cases h with
  | length hl => exact decode_of_length_ne hl
  | identity h =>
    subst h
    exact decode_of_identity (by decide) (Compressed.decode?_identityBytes (F := Fp))
      (Point.isIdentity_identity (F := Fp))
  | @accepted x y h =>
    exact decode_eq_ok h.writes.1 h.decode?_eq (Point.isIdentity_affine x y)
  | refused hl hidentity hspells =>
    exact decode_of_none hl (Compressed.decode?_eq_none hidentity hspells)

theorem exists_verdict (bs : Bytes) : ∃ r, Verdict bs r := by
  obtain h | h | ⟨x, y, h⟩ | ⟨hl, hidentity, hspells⟩ := Compressed.form_cases Fp bs
  · exact ⟨_, .length h⟩
  · exact ⟨_, .identity h⟩
  · exact ⟨_, .accepted h⟩
  · exact ⟨_, .refused hl hidentity hspells⟩

end PublicKey

namespace Signature

theorem Verdict.decode_eq {bs : Bytes} {r : Except Fault (Signature standardGroups)}
    (h : Verdict bs r) : decode bs = r := by
  cases h with
  | length hl => exact decode_of_length_ne hl
  | identity h =>
    subst h
    exact decode_eq_ok (by decide) (Compressed.decode?_identityBytes (F := Fp2))
  | accepted h => exact decode_eq_ok h.writes.1 h.decode?_eq
  | refused hl hidentity hspells =>
    exact decode_of_none hl (Compressed.decode?_eq_none hidentity hspells)

theorem exists_verdict (bs : Bytes) : ∃ r, Verdict bs r := by
  obtain h | h | ⟨x, y, h⟩ | ⟨hl, hidentity, hspells⟩ := Compressed.form_cases Fp2 bs
  · exact ⟨_, .length h⟩
  · exact ⟨_, .identity h⟩
  · exact ⟨_, .accepted h⟩
  · exact ⟨_, .refused hl hidentity hspells⟩

end Signature

/-- **The readers answer by the verdicts**, on every string. -/
theorem decode_standard_iff (bs : Bytes) :
    (∀ r, (PublicKey.decode bs : Except Fault (PublicKey standardGroups)) = r ↔
        PublicKey.Verdict bs r) ∧
      ∀ r, (Signature.decode bs : Except Fault (Signature standardGroups)) = r ↔
        Signature.Verdict bs r := by
  -- Each string has a verdict, and the reader follows every verdict that a string has.
  obtain ⟨key, hkey⟩ := PublicKey.exists_verdict bs
  obtain ⟨signature, hsignature⟩ := Signature.exists_verdict bs
  refine ⟨fun r => ⟨?_, PublicKey.Verdict.decode_eq⟩, fun r => ⟨?_, Signature.Verdict.decode_eq⟩⟩
  · rintro rfl
    rwa [hkey.decode_eq]
  · rintro rfl
    rwa [hsignature.decode_eq]

/-! ## Round trips -/

theorem PublicKey.encode_eq_compressed (k : PublicKey standardGroups) :
    k.encode = Compressed.encode (F := Fp) k.point := rfl

theorem Signature.encode_eq_compressed (s : Signature standardGroups) :
    s.encode = Compressed.encode (F := Fp2) s.point := rfl

/-- The form of a point other than the identity is accepted as that point. -/
theorem PublicKey.decode_of_form {bs : Bytes} {A : (curve Fp).Point} (h : Form bs A) (hA : A ≠ 0) :
    (decode bs : Except Fault (PublicKey standardGroups)) = .ok ⟨.normal A⟩ := by
  cases A with
  | zero => exact absurd rfl hA
  | some x y _ => exact (Verdict.accepted h).decode_eq

theorem Signature.decode_of_form {bs : Bytes} {A : (curve Fp2).Point} (h : Form bs A) :
    (decode bs : Except Fault (Signature standardGroups)) = .ok ⟨.normal A⟩ := by
  cases A with
  | zero => exact (Verdict.identity h).decode_eq
  | some x y _ => exact (Verdict.accepted h).decode_eq

/-- Whatever triple a key holds, it is written in the form of its point. -/
theorem PublicKey.form_encode {k : PublicKey standardGroups} {A : (curve Fp).Point}
    (hk : Point.Represents k.point A) (horder : groupOrder • A = 0) : Form k.encode A := by
  rw [k.encode_eq_compressed]
  exact Compressed.form_encode_of_represents hk horder

theorem Signature.form_encode {s : Signature standardGroups} {A : (curve Fp2).Point}
    (hs : Point.Represents s.point A) (horder : groupOrder • A = 0) : Form s.encode A := by
  rw [s.encode_eq_compressed]
  exact Compressed.form_encode_of_represents hs horder

/-- **A point has one written form.** Whatever is read is written as it stood. What is written for a
point of the subgroup, by any triple, is its form, and it is read as that point; of public keys the
identity is excepted. -/
theorem codec_standard :
    (∀ (bs : Bytes) (k : PublicKey standardGroups), PublicKey.decode bs = .ok k → k.encode = bs) ∧
    (∀ (bs : Bytes) (s : Signature standardGroups), Signature.decode bs = .ok s → s.encode = bs) ∧
    (∀ (k : PublicKey standardGroups) (A : (curve Fp).Point),
      Point.Represents k.point A → groupOrder • A = 0 → A ≠ 0 →
        Form k.encode A ∧ ∃ k' : PublicKey standardGroups,
          PublicKey.decode k.encode = .ok k' ∧ Point.Represents k'.point A ∧ (k' == k) = true) ∧
    (∀ (s : Signature standardGroups) (A : (curve Fp2).Point),
      Point.Represents s.point A → groupOrder • A = 0 →
        Form s.encode A ∧ ∃ s' : Signature standardGroups,
          Signature.decode s.encode = .ok s' ∧ Point.Represents s'.point A ∧ (s' == s) = true) := by
  refine ⟨?_, ?_, ?_, ?_⟩
  -- From bytes to bytes.
  · intro bs k h
    rw [k.encode_eq_compressed]
    exact Compressed.encode_of_decode? (PublicKey.decode_ok h).1
  · intro bs s h
    rw [s.encode_eq_compressed]
    exact Compressed.encode_of_decode? (Signature.decode_ok h)
  -- From values to values: what is read is the normal form of the point, whose bytes are the same.
  · intro k A hk horder hA
    have hform := PublicKey.form_encode hk horder
    refine ⟨hform, ⟨.normal A⟩, PublicKey.decode_of_form hform hA, Point.represents_normal A, ?_⟩
    rw [PublicKey.beq_iff, PublicKey.encode_eq_compressed]
    exact hform.encode_eq
  · intro s A hs horder
    have hform := Signature.form_encode hs horder
    refine ⟨hform, ⟨.normal A⟩, Signature.decode_of_form hform, Point.represents_normal A, ?_⟩
    rw [Signature.beq_iff, Signature.encode_eq_compressed]
    exact hform.encode_eq

/-- The generator of the second group. -/
def extensionGenerator : Point Fp2 :=
  .affine
    ⟨.ofNat 0x024aa2b2f08f0a91260805272dc51051c6e47ad4fa403b02b4510b647ae3d1770bac0326a805bbefd48056c8c121bdb8,
      .ofNat 0x13e02b6052719f607dacd3a088274f65596bd0d09920b61ab5da61bbdc7f5049334cf11213945d57e5ac7d055d042b7e⟩
    ⟨.ofNat 0x0ce5d527727d6e118cc9cdc6da2e351aadfd9baa8cbdd3a76d429a695160d12c923ac9cc3baca289e193548608b82801,
      .ofNat 0x0606c4a02ea734cc32acd2b02bc28b99cb3e287e85a763af267492ab572e99ab3f370d275cec1da1aaa9075ff05f79be⟩

theorem onCurve_baseGenerator : OnCurve baseGenerator.x baseGenerator.y := by
  decide +kernel

theorem onCurve_extensionGenerator : OnCurve extensionGenerator.x extensionGenerator.y := by
  decide +kernel

/-- A generator given by another triple is read back, and its bytes are written again. -/
theorem codec_standard_generators :
    let A : (curve Fp).Point := onCurve_baseGenerator.point
    let B : (curve Fp2).Point := onCurve_extensionGenerator.point
    let k : PublicKey standardGroups := ⟨baseGenerator.scale 2⟩
    let s : Signature standardGroups := ⟨extensionGenerator.scale ⟨0, 1⟩⟩
    (Point.Represents k.point A ∧ groupOrder • A = 0 ∧ A ≠ 0 ∧ Form k.encode A ∧
      ∃ k' : PublicKey standardGroups, PublicKey.decode k.encode = .ok k' ∧
        Point.Represents k'.point A ∧ (k' == k) = true ∧ k'.encode = k.encode) ∧
    Point.Represents s.point B ∧ groupOrder • B = 0 ∧ Form s.encode B ∧
      ∃ s' : Signature standardGroups, Signature.decode s.encode = .ok s' ∧
        Point.Represents s'.point B ∧ (s' == s) = true ∧ s'.encode = s.encode := by
  intro A B k s
  -- Neither triple is the normal form of its point.
  have hk : Point.Represents k.point A := ⟨2, by decide, rfl⟩
  have hA : groupOrder • A = 0 := (Point.represents_normal A).inSubgroup_iff.1 (by decide +kernel)
  have hs : Point.Represents s.point B := ⟨⟨0, 1⟩, by decide, rfl⟩
  have hB : groupOrder • B = 0 := (Point.represents_normal B).inSubgroup_iff.1 (by decide +kernel)
  have hne : A ≠ 0 := WeierstrassCurve.Affine.Point.some_ne_zero _
  obtain ⟨hread, hreads, hwrite, hwrites⟩ := codec_standard
  obtain ⟨hform, k', hk', hrep, heq⟩ := hwrite k A hk hA hne
  obtain ⟨hforms, s', hs', hreps, heqs⟩ := hwrites s B hs hB
  exact ⟨⟨hk, hA, hne, hform, k', hk', hrep, heq, hread _ k' hk'⟩,
    hs, hB, hforms, s', hs', hreps, heqs, hreads _ s' hs'⟩

end PairingSig
