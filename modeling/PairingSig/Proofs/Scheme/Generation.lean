import PairingSig.Proofs.Hash.Hkdf
import PairingSig.Proofs.Key.Generation
import PairingSig.Proofs.Scheme.Results

/-!
# Keys generated from seeds

What key generation yields for a seed, said without the generator: two chained authentication codes
give the material of a key, and the residue of the number that the first 48 bytes write is written
in 32 bytes again.

- **Material**: `keyingMaterial` spells the two codes out, `material_eq` says that the first attempt
  of a generation uses them;
- **Keys**: `encode_ofScalar` for the bytes of a scalar and `generate_eq_residue` for those of a
  generated key;
- **Operations**: `generateKey_exact`.
-/

namespace PairingSig

namespace KeyGeneration

/-! ## Material -/

/-- The bytes that a seed comes to under the first salt. -/
def keyingMaterial (seed : Bytes) : Bytes :=
  let key := Hkdf.mac (Bytes.ofText "BLS-SIG-KEYGEN-SALT-") (seed ++ [0])
  -- The context of both codes is the number of bytes wanted, 48 in two bytes.
  let first := Hkdf.mac key [0, 48, 1]
  let second := Hkdf.mac key (first ++ [0, 48, 2])
  (first ++ second).take 48

theorem length_keyingMaterial (seed : Bytes) : (keyingMaterial seed).length = 48 := by
  simp [keyingMaterial]

theorem extract_firstSalt (seed : Bytes) :
    Hkdf.extract firstSalt (seed ++ [0]) =
      Hkdf.mac (Bytes.ofText "BLS-SIG-KEYGEN-SALT-") (seed ++ [0]) :=
  Hkdf.hmac_of_short (by decide +kernel) _

theorem material_eq (seed : Bytes) : material firstSalt seed = keyingMaterial seed := by
  -- The condensed seed is itself a hash, so it too is a key of less than one block.
  have hshort : (Hkdf.mac (Bytes.ofText "BLS-SIG-KEYGEN-SALT-") (seed ++ [0])).length ≤ 64 := by
    simp
  have hinfo : Bytes.ofNat 2 materialLength = [0, 48] := rfl
  rw [material, extract_firstSalt, hinfo, Hkdf.expand_eq, keyingMaterial]
  simp [materialLength, List.range', Hkdf.outputBlock, Hkdf.hmac_of_short hshort]

theorem val_candidate (seed : Bytes) :
    (candidate firstSalt seed).val = Bytes.toNat (keyingMaterial seed) % groupOrder := by
  have hwide : (keyingMaterial seed).length ≤ 64 := by simp [length_keyingMaterial]
  rw [candidate, material_eq, Scalar.val_reduce hwide]

/-! ## Keys -/

theorem encode_ofScalar (k : Scalar) : (PrivateKey.ofScalar k).encode = Bytes.ofNat 32 k.val := by
  rw [← Bytes.ofNat_toNat (PrivateKey.length_encode (.ofScalar k)), ← PrivateKey.val_scalar,
    PrivateKey.scalar_ofScalar]

/-- Where the residue is not zero, a generated key is written as that residue. -/
theorem generate_eq_residue {seed : Bytes} (hlength : minimumSeedLength ≤ seed.length)
    (hresidue : Bytes.toNat (keyingMaterial seed) % groupOrder ≠ 0) :
    ∃ x, generate seed = .ok x ∧
      x.encode = Bytes.ofNat 32 (Bytes.toNat (keyingMaterial seed) % groupOrder) := by
  -- The residue is the first candidate, which is taken if it is not zero.
  have hzero : (candidate firstSalt seed).isZero = false := by
    rw [← Bool.not_eq_true, Scalar.isZero_iff, val_candidate]
    exact hresidue
  refine ⟨_, generate_of_candidate hlength hzero, ?_⟩
  rw [encode_ofScalar, val_candidate]

end KeyGeneration

namespace Scheme

open KeyGeneration (keyingMaterial)

/-! ## Operations -/

/-- **Generation is the residue of the material.** A seed of less than 32 bytes is refused with its
length. Of any longer one the material is reduced modulo the group order; unless that gives zero,
the 32 bytes of the residue, most significant first, are the key. They are read as a private key,
and neither deriving nor signing with them fails. -/
theorem generateKey_exact (seed : Bytes) :
    (seed.length < 32 → (generateKey seed).result = .error (.shortSeed seed.length)) ∧
    (32 ≤ seed.length → Bytes.toNat (keyingMaterial seed) % groupOrder ≠ 0 →
      let key := Bytes.ofNat 32 (Bytes.toNat (keyingMaterial seed) % groupOrder)
      (generateKey seed).result = .ok key ∧
      (∃ x, PrivateKey.decode key = .ok x) ∧
      ∀ G : PairingGroups,
        (∃ p, (derivePublicKey G key).result = .ok p) ∧
        ∀ message, ∃ s, (sign G key message).result = .ok s) := by
  constructor
  · intro hshort
    rw [result_generateKey, KeyGeneration.generate_short hshort]
    rfl
  · intro hlength hresidue key
    obtain ⟨x, hx, hkey⟩ := KeyGeneration.generate_eq_residue hlength hresidue
    -- The operations take any key that can be read, and what is generated can be.
    have hdecode : PrivateKey.decode key = .ok x := by
      simpa only [hkey] using KeyGeneration.decode_generate hx
    refine ⟨?_, ⟨x, hdecode⟩, fun G => ⟨⟨_, derivePublicKey_of_decode hdecode⟩, ?_⟩⟩
    · rw [result_generateKey, hx]
      exact congrArg Except.ok hkey
    · exact fun message => ⟨_, sign_of_decode hdecode message⟩

/-- A seed of 31 bytes is refused; 32 zeros give a key that derives and signs. -/
theorem generateKey_exact_zeros :
    let key := Bytes.ofNat 32 0x4a353be3dac091a0a7e640620372f5e1e2e4401717c1e79cac6ffba8f6905604
    (generateKey (List.replicate 31 0)).result = .error (.shortSeed 31) ∧
    (generateKey (List.replicate 32 0)).result = .ok key ∧
    (∃ x, PrivateKey.decode key = .ok x) ∧
    ∀ G : PairingGroups,
      (∃ p, (derivePublicKey G key).result = .ok p) ∧
      ∀ message, ∃ s, (sign G key message).result = .ok s := by
  have hresidue : Bytes.toNat (keyingMaterial (List.replicate 32 0)) % groupOrder =
      0x4a353be3dac091a0a7e640620372f5e1e2e4401717c1e79cac6ffba8f6905604 := by
    decide +kernel
  refine ⟨(generateKey_exact (List.replicate 31 0)).1 (by decide), ?_⟩
  have hzeros := (generateKey_exact (List.replicate 32 0)).2 (by decide)
  rw [hresidue] at hzeros
  exact hzeros (by decide)

end Scheme

end PairingSig
