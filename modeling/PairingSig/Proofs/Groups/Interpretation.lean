import Mathlib.Algebra.BigOperators.Group.List.Basic
import Mathlib.GroupTheory.SpecificGroups.Cyclic
import PairingSig.Groups
import PairingSig.Proofs.Primality

/-!
# Groups of prime order behind the operations

`PairingGroups` lists the operations that the scheme calls. This module says what they are relied on
for: their representatives stand for elements of two groups of order `groupOrder`, the operations
are those of the groups, written forms and elements determine each other, and the test of a product
of pairings is decided by a bilinear map that is not zero.

- **Reading**: `Reading` tells which representatives are in use and what they stand for;
  `Reading.Codec` says that writing and reading are inverse to each other.
- **Interpretation**: `PairingGroups.Interpretation` collects the laws of all operations.
- **Consequences**: every element of the first group is a multiple of the generator
  (`exists_nsmul_generator`), small multiples of it are not zero (`nsmul_generator_ne_zero`), and
  pairing with it loses nothing (`pairing_generator_injective`).
-/

namespace PairingSig

/-! ## Representatives -/

/-- How representatives stand for the elements of a group. -/
structure Reading (R A : Type) where
  /-- The representatives that the operations take and give. -/
  proper : R → Prop
  /-- The element that a representative stands for. -/
  value : R → A

/-- Writing and reading are inverse to each other: what is written depends on the element alone and
is read as that element, and whatever is read is written as it stood. -/
structure Reading.Codec {R A : Type} (ρ : Reading R A) (width : Nat) (encode : R → Bytes)
    (decode? : Bytes → Option R) : Prop where
  length_encode : ∀ P, ρ.proper P → (encode P).length = width
  encode_congr : ∀ P Q, ρ.proper P → ρ.proper Q → ρ.value P = ρ.value Q → encode P = encode Q
  decode_encode : ∀ P, ρ.proper P → ∃ Q, decode? (encode P) = some Q ∧ ρ.value Q = ρ.value P
  proper_of_decode : ∀ bs P, decode? bs = some P → ρ.proper P
  encode_of_decode : ∀ bs P, decode? bs = some P → encode P = bs

/-- Two representatives are written alike exactly when they stand for the same element. -/
theorem Reading.Codec.encode_eq_iff {R A : Type} {ρ : Reading R A} {width : Nat}
    {encode : R → Bytes} {decode? : Bytes → Option R} (c : ρ.Codec width encode decode?) {P Q : R}
    (hP : ρ.proper P) (hQ : ρ.proper Q) : encode P = encode Q ↔ ρ.value P = ρ.value Q := by
  constructor
  · intro h
    obtain ⟨P', hP', hvP⟩ := c.decode_encode P hP
    obtain ⟨Q', hQ', hvQ⟩ := c.decode_encode Q hQ
    -- The same bytes are read only once.
    rw [h, hQ'] at hP'
    obtain rfl := Option.some_inj.1 hP'
    rw [← hvP, hvQ]
  · exact c.encode_congr P Q hP hQ

/-! ## The laws of all operations -/

/-- An interpretation of the operations in two groups of order `groupOrder` and a pairing of them.
The group in which the pairing takes its values is written additively. -/
structure PairingGroups.Interpretation (G : PairingGroups) (A₁ A₂ T : Type) [AddCommGroup A₁]
    [AddCommGroup A₂] [AddCommGroup T] where
  keys : Reading G.G₁ A₁
  signatures : Reading G.G₂ A₂
  /-- The pairing, linear on both sides. -/
  pairing : A₁ →+ A₂ →+ T
  card₁ : Nat.card A₁ = groupOrder
  card₂ : Nat.card A₂ = groupOrder
  nondegenerate : pairing ≠ 0
  proper_generator : keys.proper G.generator
  generator_ne_zero : keys.value G.generator ≠ 0
  proper_smul₁ : ∀ k P, keys.proper P → keys.proper (G.smul₁ k P)
  value_smul₁ : ∀ k P, keys.proper P → keys.value (G.smul₁ k P) = k.val • keys.value P
  isIdentity₁_iff : ∀ P, keys.proper P → (G.isIdentity₁ P = true ↔ keys.value P = 0)
  keyCodec : keys.Codec publicKeyLength G.encode₁ G.decode₁?
  proper_identity₂ : signatures.proper G.identity₂
  value_identity₂ : signatures.value G.identity₂ = 0
  proper_add₂ : ∀ P Q, signatures.proper P → signatures.proper Q → signatures.proper (G.add₂ P Q)
  value_add₂ : ∀ P Q, signatures.proper P → signatures.proper Q →
    signatures.value (G.add₂ P Q) = signatures.value P + signatures.value Q
  proper_smul₂ : ∀ k P, signatures.proper P → signatures.proper (G.smul₂ k P)
  value_smul₂ : ∀ k P, signatures.proper P →
    signatures.value (G.smul₂ k P) = k.val • signatures.value P
  signatureCodec : signatures.Codec signatureLength G.encode₂ G.decode₂?
  /-- Messages are hashed into the group. -/
  proper_hash : ∀ m, signatures.proper (G.hash m)
  /-- The test of a product of pairings compares the values of the pairing. -/
  balances_iff : ∀ s pairs, signatures.proper s →
    (∀ pq ∈ pairs, keys.proper pq.1 ∧ signatures.proper pq.2) →
    (G.balances s pairs = true ↔
      pairing (keys.value G.generator) (signatures.value s) =
        (pairs.map fun pq => pairing (keys.value pq.1) (signatures.value pq.2)).sum)

namespace PairingGroups.Interpretation

variable {G : PairingGroups} {A₁ A₂ T : Type} [AddCommGroup A₁] [AddCommGroup A₂] [AddCommGroup T]
  (I : G.Interpretation A₁ A₂ T)

/-! ## Consequences -/

/-- In a group of prime order every element other than zero has the order of the group. -/
theorem addOrderOf_eq_groupOrder {A : Type} [AddCommGroup A] (hcard : Nat.card A = groupOrder)
    {a : A} (ha : a ≠ 0) : addOrderOf a = groupOrder := by
  apply addOrderOf_eq_prime
  · rw [← hcard]
    exact card_nsmul_eq_zero'
  · exact ha

/-- Every element of the first group is a multiple of the generator. -/
theorem exists_nsmul_generator (a : A₁) : ∃ n : Nat, n • I.keys.value G.generator = a :=
  (AddSubmonoid.mem_multiples_iff _ _).1
    (mem_multiples_of_prime_card I.card₁ I.generator_ne_zero)

theorem addOrderOf_generator : addOrderOf (I.keys.value G.generator) = groupOrder :=
  addOrderOf_eq_groupOrder I.card₁ I.generator_ne_zero

/-- A multiple of the generator below the group order is not zero, unless it is the empty one. -/
theorem nsmul_generator_ne_zero {n : Nat} (hpos : 0 < n) (hlt : n < groupOrder) :
    n • I.keys.value G.generator ≠ 0 := by
  intro h
  have hdvd : groupOrder ∣ n := by
    rw [← I.addOrderOf_generator]
    exact addOrderOf_dvd_of_nsmul_eq_zero h
  exact absurd (Nat.le_of_dvd hpos hdvd) (Nat.not_le.2 hlt)

/-- **Pairing with the generator loses nothing.** An element that it sends to zero is sent to zero
by every element of the first group; were it not zero itself, its multiples would make up the second
group and the pairing would vanish. -/
theorem pairing_generator_injective :
    Function.Injective (I.pairing (I.keys.value G.generator)) := by
  rw [injective_iff_map_eq_zero]
  intro b hb
  -- Any other point would generate its group, so the pairing would be trivial.
  by_contra hne
  apply I.nondegenerate
  ext a c
  obtain ⟨n, rfl⟩ := I.exists_nsmul_generator a
  obtain ⟨m, rfl⟩ := (AddSubmonoid.mem_multiples_iff c b).1
    (mem_multiples_of_prime_card I.card₂ hne)
  rw [map_nsmul, map_nsmul, AddMonoidHom.nsmul_apply, hb, smul_zero, smul_zero]
  rfl

/-- No element other than zero is paired to zero with an element other than zero. -/
theorem eq_zero_of_pairing_eq_zero {a : A₁} {b : A₂} (hb : b ≠ 0) (h : I.pairing a b = 0) :
    a = 0 := by
  obtain ⟨n, rfl⟩ := I.exists_nsmul_generator a
  rw [map_nsmul, AddMonoidHom.nsmul_apply, ← map_nsmul,
    map_eq_zero_iff _ I.pairing_generator_injective] at h
  -- Both elements have the same order, so the factor that annihilates one annihilates the other.
  rwa [← addOrderOf_dvd_iff_nsmul_eq_zero, I.addOrderOf_generator,
    ← addOrderOf_eq_groupOrder I.card₂ hb, addOrderOf_dvd_iff_nsmul_eq_zero]

end PairingGroups.Interpretation

end PairingSig
