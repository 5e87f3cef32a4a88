import Mathlib.Algebra.Module.BigOperators
import PairingSig.Proofs.Scheme.Sums

/-!
# What private keys write

A public key is a multiple of the generator, and a signature is one of what its message is hashed
to; the factor is the number of the private key. The group order annihilates both points, so the
signatures of a message add up as the numbers of the keys do, modulo the group order. It is prime,
so keys of different numbers have different public keys.

- **Numbers**: `PrivateKey.exists_decode_ofNat` and `PrivateKey.eq_of_toNat_eq`, private keys are
  the numbers from one below the group order;
- **Forms**: `PrivateKey.form_multiple`, what is written is the form of the multiple;
- **Sums of signatures**: `exists_form_sum`, and `aggregate_sign` in terms of strings;
- **Different keys**: `derivePublicKey_inj`.
-/

namespace PairingSig

open Compressed (Form)

/-! ## Numbers -/

namespace PrivateKey

/-- Each number from one below the group order is that of a private key. -/
theorem exists_decode_ofNat {n : Nat} (hpos : 0 < n) (hlt : n < groupOrder) :
    ∃ x, decode (Bytes.ofNat 32 n) = .ok x := by
  have hn : Bytes.toNat (Bytes.ofNat 32 n) = n := Bytes.toNat_ofNat (hlt.trans groupOrder_lt)
  exact ⟨⟨_, Bytes.length_ofNat 32 n, by rwa [hn]⟩, (decode_eq_ok_iff _ _).2 ⟨rfl, by rwa [hn]⟩⟩

/-- Private keys of the same number are the same. -/
theorem eq_of_toNat_eq {a b : Bytes} {x y : PrivateKey} (hx : decode a = .ok x)
    (hy : decode b = .ok y) (h : Bytes.toNat a = Bytes.toNat b) : a = b := by
  obtain ⟨rfl, -⟩ := (decode_eq_ok_iff a x).1 hx
  obtain ⟨rfl, -⟩ := (decode_eq_ok_iff b y).1 hy
  rw [← Bytes.ofNat_toNat x.length_encode, h, Bytes.ofNat_toNat y.length_encode]

/-! ## Forms -/

/-- What a key writes for its multiple of a point of the group is the form of that multiple. -/
theorem form_multiple {F : Type} [Field F] [CurveConstant F] [NoOrderTwo F] [DecidableEq F]
    [Coordinate F] [CoordinateForm F] [LawfulCoordinate F] {P : Point F} {A : (curve F).Point}
    (hP : P.Represents A) (horder : groupOrder • A = 0) (x : PrivateKey) :
    Form (Compressed.encode (P.multiple 255 x.scalar.val)) (Bytes.toNat x.encode • A) := by
  refine Compressed.form_encode_of_represents (represents_multiple hP x) ?_
  rw [nsmul_left_comm, horder, nsmul_zero]

end PrivateKey

namespace Scheme

variable {message key : Bytes} {x : PrivateKey} {B : (curve Fp2).Point}

/-! ## Sums of signatures -/

/-- Only the residues of the numbers of the keys matter for their sum. -/
theorem sum_multiples (horder : groupOrder • B = 0) (keys : List Bytes) :
    (keys.map fun key => Bytes.toNat key • B).sum =
      ((keys.map Bytes.toNat).sum % groupOrder) • B := by
  rw [← nsmul_eq_mod_nsmul _ horder, List.sum_smul, List.map_map]
  rfl

section

-- The message is hashed to a triple of a point of the group.
variable (hB : Point.Represents (HashToCurve.hash message) B) (horder : groupOrder • B = 0)

include hB horder

theorem exists_form_sign (hx : PrivateKey.decode key = .ok x) :
    ∃ signature, (sign standardGroups key message).result = .ok signature ∧
      Form signature (Bytes.toNat key • B) := by
  obtain ⟨rfl, -⟩ := (PrivateKey.decode_eq_ok_iff key x).1 hx
  refine ⟨_, sign_of_decode hx message, ?_⟩
  rw [Signature.encode_eq_compressed]
  exact x.form_multiple hB horder

/-- The key of a number signs by the multiple by this number. -/
theorem exists_form_sign_ofNat {n : Nat} (hpos : 0 < n) (hlt : n < groupOrder) :
    ∃ signature, (sign standardGroups (Bytes.ofNat 32 n) message).result = .ok signature ∧
      Form signature (n • B) := by
  obtain ⟨x, hx⟩ := PrivateKey.exists_decode_ofNat hpos hlt
  simpa only [Bytes.toNat_ofNat (hlt.trans groupOrder_lt)] using exists_form_sign hB horder hx

/-- With each key of a list, a message is signed by the multiple of its number. -/
theorem exists_forms_sign {keys : List Bytes}
    (hkeys : ∀ key ∈ keys, ∃ x, PrivateKey.decode key = .ok x) :
    ∃ signatures, (keys.map fun key => (sign standardGroups key message).result) =
        signatures.map .ok ∧
      List.Forall₂ Form signatures (keys.map fun key => Bytes.toNat key • B) := by
  induction keys with
  | nil => exact ⟨[], rfl, .nil⟩
  | cons key rest ih =>
    obtain ⟨⟨x, hx⟩, hrest⟩ := List.forall_mem_cons.1 hkeys
    obtain ⟨signature, hsignature, hform⟩ := exists_form_sign hB horder hx
    obtain ⟨signatures, hsignatures, hforms⟩ := ih hrest
    refine ⟨signature :: signatures, ?_, .cons hform hforms⟩
    rw [List.map_cons, List.map_cons, hsignature, hsignatures]

/-- The sum of the signatures of a message is the form of the multiple by the sum of the keys. -/
theorem exists_form_sum {keys : List Bytes} (hne : keys ≠ [])
    (hkeys : ∀ key ∈ keys, ∃ x, PrivateKey.decode key = .ok x) :
    ∃ signatures sum, (keys.map fun key => (sign standardGroups key message).result) =
        signatures.map .ok ∧
      (aggregate standardGroups signatures).result = .ok sum ∧
      Form sum (((keys.map Bytes.toNat).sum % groupOrder) • B) := by
  obtain ⟨signatures, hsignatures, hforms⟩ := exists_forms_sign hB horder hkeys
  have hne' : signatures ≠ [] := (ne_nil_iff_of_forall₂ hforms).2 (mt List.map_eq_nil_iff.1 hne)
  obtain ⟨sum, hsum, hform⟩ := aggregate_of_forms hne' hforms
  rw [sum_multiples horder] at hform
  exact ⟨signatures, sum, hsignatures, hsum, hform⟩

end

/-- **Signing is linear in the key.** The signatures of a message with private keys add up to the
signature with the sum of the keys, modulo the group order, and to the identity if this is zero. -/
theorem aggregate_sign (hmessage : Point.InGroup (HashToCurve.hash message)) {keys : List Bytes}
    (hne : keys ≠ []) (hkeys : ∀ key ∈ keys, ∃ x, PrivateKey.decode key = .ok x) :
    ∃ signatures, (keys.map fun key => (sign standardGroups key message).result) =
        signatures.map .ok ∧
      let total := (keys.map Bytes.toNat).sum % groupOrder
      (total ≠ 0 → ∃ sum,
        (sign standardGroups (Bytes.ofNat 32 total) message).result = .ok sum ∧
        (aggregate standardGroups signatures).result = .ok sum) ∧
      (total = 0 →
        (aggregate standardGroups signatures).result = .ok (0xc0 :: List.replicate 95 0)) := by
  obtain ⟨B, hB, horder⟩ := hmessage
  obtain ⟨signatures, sum, hsignatures, hsum, hform⟩ := exists_form_sum hB horder hne hkeys
  have hlt : (keys.map Bytes.toNat).sum % groupOrder < groupOrder := Nat.mod_lt _ groupOrder_pos
  refine ⟨signatures, hsignatures, fun htotal => ?_, fun htotal => ?_⟩
  -- The key of the total signs, and its signature and the sum are forms of the same multiple.
  · obtain ⟨signature, hsignature, hform'⟩ :=
      exists_form_sign_ofNat hB horder (Nat.pos_of_ne_zero htotal) hlt
    exact ⟨signature, hsignature, by rw [hsum, hform.unique hform']⟩
  -- No key has the number zero; the sum is the form of the identity.
  · have hzero : Form (0xc0 :: List.replicate 95 0) (0 : (curve Fp2).Point) := rfl
    rw [htotal, zero_nsmul] at hform
    rw [hsum, hform.unique hzero]

/-- Numbers of keys that wrap around, and numbers that vanish. -/
theorem aggregate_sign_nil :
    let key := Bytes.ofNat 32
    let keys := [key (groupOrder - 1), key 1, key 2]
    let opposite := [key 1, key (groupOrder - 1)]
    Point.InGroup (HashToCurve.hash []) ∧
    (∀ k ∈ keys ++ opposite, ∃ x, PrivateKey.decode k = .ok x) ∧
    (∃ signatures sum,
      (keys.map fun k => (sign standardGroups k []).result) = signatures.map .ok ∧
      (sign standardGroups (key 2) []).result = .ok sum ∧
      (aggregate standardGroups signatures).result = .ok sum) ∧
    ∃ signatures,
      (opposite.map fun k => (sign standardGroups k []).result) = signatures.map .ok ∧
      (aggregate standardGroups signatures).result = .ok (0xc0 :: List.replicate 95 0) := by
  intro key keys opposite
  have hlarge : ∃ x, PrivateKey.decode (key (groupOrder - 1)) = .ok x :=
    PrivateKey.exists_decode_ofNat (by decide) (by decide)
  have hone : ∃ x, PrivateKey.decode (key 1) = .ok x :=
    PrivateKey.exists_decode_ofNat (by decide) (by decide)
  have htwo : ∃ x, PrivateKey.decode (key 2) = .ok x :=
    PrivateKey.exists_decode_ofNat (by decide) (by decide)
  have hkeys : ∀ k ∈ keys, ∃ x, PrivateKey.decode k = .ok x := by
    simpa [keys] using ⟨hlarge, hone, htwo⟩
  have hopposite : ∀ k ∈ opposite, ∃ x, PrivateKey.decode k = .ok x := by
    simpa [opposite] using ⟨hone, hlarge⟩
  -- One list of numbers adds up to the order and two, the other one to the order.
  have hsum : (keys.map Bytes.toNat).sum % groupOrder = 2 := by decide +kernel
  have hvanish : (opposite.map Bytes.toNat).sum % groupOrder = 0 := by decide +kernel
  refine ⟨inGroup_hash_nil, List.forall_mem_append.2 ⟨hkeys, hopposite⟩, ?_, ?_⟩
  · obtain ⟨signatures, hsignatures, hother, -⟩ :=
      aggregate_sign inGroup_hash_nil (List.cons_ne_nil _ _) hkeys
    rw [hsum] at hother
    obtain ⟨sum, hsign, haggregate⟩ := hother (by decide)
    exact ⟨signatures, sum, hsignatures, hsign, haggregate⟩
  · obtain ⟨signatures, hsignatures, -, hzero⟩ :=
      aggregate_sign inGroup_hash_nil (List.cons_ne_nil _ _) hopposite
    exact ⟨signatures, hsignatures, hzero hvanish⟩

/-! ## Different keys -/

theorem exists_form_derivePublicKey (hx : PrivateKey.decode key = .ok x) :
    ∃ written, (derivePublicKey standardGroups key).result = .ok written ∧
      Form written (Bytes.toNat key • onCurve_baseGenerator.point) := by
  obtain ⟨rfl, -⟩ := (PrivateKey.decode_eq_ok_iff key x).1 hx
  refine ⟨_, derivePublicKey_of_decode hx, ?_⟩
  rw [PublicKey.encode_eq_compressed]
  exact x.form_multiple (Point.represents_normal _) PrivateKey.nsmul_baseGenerator

/-- Multiples of the generator by the numbers of keys are different from each other. -/
theorem toNat_eq_of_nsmul_baseGenerator {a b : Bytes} {x y : PrivateKey}
    (hx : PrivateKey.decode a = .ok x) (hy : PrivateKey.decode b = .ok y)
    (h : Bytes.toNat a • onCurve_baseGenerator.point =
      Bytes.toNat b • onCurve_baseGenerator.point) : Bytes.toNat a = Bytes.toNat b := by
  obtain ⟨rfl, -⟩ := (PrivateKey.decode_eq_ok_iff a x).1 hx
  obtain ⟨rfl, -⟩ := (PrivateKey.decode_eq_ok_iff b y).1 hy
  -- Both numbers are below the order of the generator, where multiples are told apart.
  refine nsmul_injOn_Iio_addOrderOf ?_ ?_ h
  · rw [PrivateKey.addOrderOf_baseGenerator]
    exact x.toNat_bytes_lt
  · rw [PrivateKey.addOrderOf_baseGenerator]
    exact y.toNat_bytes_lt

/-- **Public keys identify private keys.** The public key of a private key has 48 bytes and is read
as a public key again, and no other private key has it. -/
theorem derivePublicKey_inj {a b : Bytes} {x y : PrivateKey} (hx : PrivateKey.decode a = .ok x)
    (hy : PrivateKey.decode b = .ok y) :
    (∃ written, (derivePublicKey standardGroups a).result = .ok written ∧
      written.length = 48 ∧
      ∃ k : PublicKey standardGroups, PublicKey.decode written = .ok k) ∧
    ((derivePublicKey standardGroups a).result = (derivePublicKey standardGroups b).result ↔
      a = b) := by
  obtain ⟨p, hp, hform⟩ := exists_form_derivePublicKey hx
  constructor
  -- What is written is the form of a multiple of the generator that is not the identity.
  · obtain ⟨rfl, hpos⟩ := (PrivateKey.decode_eq_ok_iff a x).1 hx
    have hk := PublicKey.decode_of_form hform (PrivateKey.nsmul_baseGenerator_ne_zero hpos)
    exact ⟨p, hp, PublicKey.length_of_decode hk, _, hk⟩
  · obtain ⟨q, hq, hform'⟩ := exists_form_derivePublicKey hy
    rw [hp, hq, Except.ok.injEq]
    constructor
    · rintro rfl
      -- One string is the form of both multiples of the generator.
      have hpoint := hform.point_unique hform'
      exact PrivateKey.eq_of_toNat_eq hx hy (toNat_eq_of_nsmul_baseGenerator hx hy hpoint)
    · rintro rfl
      rw [hq, Except.ok.injEq] at hp
      exact hp.symm

/-- The largest key and the smallest one have opposite points, and different public keys. -/
theorem derivePublicKey_inj_opposite :
    let a := Bytes.ofNat 32 1
    let b := Bytes.ofNat 32 (groupOrder - 1)
    (∃ x, PrivateKey.decode a = .ok x) ∧ (∃ y, PrivateKey.decode b = .ok y) ∧
    (∃ written, (derivePublicKey standardGroups a).result = .ok written ∧
      written.length = 48 ∧
      ∃ k : PublicKey standardGroups, PublicKey.decode written = .ok k) ∧
    (derivePublicKey standardGroups a).result ≠ (derivePublicKey standardGroups b).result := by
  intro a b
  obtain ⟨x, hx⟩ : ∃ x, PrivateKey.decode a = .ok x :=
    PrivateKey.exists_decode_ofNat (by decide) (by decide)
  obtain ⟨y, hy⟩ : ∃ y, PrivateKey.decode b = .ok y :=
    PrivateKey.exists_decode_ofNat (by decide) (by decide)
  have hne : a ≠ b := by decide +kernel
  obtain ⟨hwritten, hiff⟩ := derivePublicKey_inj hx hy
  exact ⟨⟨x, hx⟩, ⟨y, hy⟩, hwritten, mt hiff.1 hne⟩

end Scheme

end PairingSig
