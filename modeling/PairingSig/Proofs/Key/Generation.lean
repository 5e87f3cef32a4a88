import Mathlib.Logic.Function.Iterate
import PairingSig.Key.Generation

/-!
# Generated private keys

A generation refuses short seeds, and what it yields otherwise is the residue of its material under
the first salt that gives one other than zero.

- `firstNonzero_eq`: what one attempt does to the search;
- `firstNonzero_of_attempts`: after any number of attempts that gave zero, the search ends at the
  first one that did not;
- `generate_of_attempts`: its scalar is the key;
- `decode_generate`: a generated key is read from its own bytes.
-/

namespace PairingSig.KeyGeneration

/-! ## The search -/

/-- The salt of the `n`th attempt, counted from zero. -/
def saltAt (n : Nat) : Bytes :=
  Sha256.digest^[n] firstSalt

/-- A search goes on with the salt that its first attempt leaves, or ends with its scalar. -/
theorem firstNonzero_eq (scalarOf : Bytes → Scalar) (salt : Bytes) :
    firstNonzero scalarOf salt =
      Sum.elim (firstNonzero scalarOf) id (Id.run (attempt scalarOf salt)) := by
  rw [firstNonzero, repeatM_eq_of_monadTail, repeatM.body]
  rcases attempt scalarOf salt with _ | _ <;> rfl

theorem firstNonzero_of_isZero {scalarOf : Bytes → Scalar} {salt : Bytes}
    (h : (scalarOf salt).isZero = true) :
    firstNonzero scalarOf salt = firstNonzero scalarOf (Sha256.digest salt) := by
  have hattempt : attempt scalarOf salt = .inl (Sha256.digest salt) := dif_pos h
  rw [firstNonzero_eq, hattempt]
  rfl

theorem firstNonzero_of_not_isZero {scalarOf : Bytes → Scalar} {salt : Bytes}
    (h : (scalarOf salt).isZero = false) :
    firstNonzero scalarOf salt = ⟨scalarOf salt, h⟩ := by
  have hattempt : attempt scalarOf salt = .inr ⟨scalarOf salt, h⟩ :=
    dif_neg (Bool.eq_false_iff.1 h)
  rw [firstNonzero_eq, hattempt]
  rfl

/-- **The search ends at the first attempt that does not give zero**, however many there are. -/
theorem firstNonzero_of_attempts {scalarOf : Bytes → Scalar} {salt : Bytes} {n : Nat}
    (hzero : ∀ m < n, (scalarOf (Sha256.digest^[m] salt)).isZero = true)
    (h : (scalarOf (Sha256.digest^[n] salt)).isZero = false) :
    (firstNonzero scalarOf salt).scalar = scalarOf (Sha256.digest^[n] salt) := by
  -- The induction is on the number of attempts left; each one moves the salt on.
  induction n generalizing salt with
  | zero =>
    rw [Function.iterate_zero_apply] at h ⊢
    rw [firstNonzero_of_not_isZero h]
  | succ n ih =>
    have hfirst := hzero 0 n.succ_pos
    rw [Function.iterate_zero_apply] at hfirst
    rw [Function.iterate_succ_apply] at h ⊢
    rw [firstNonzero_of_isZero hfirst]
    refine ih (fun m hm => ?_) h
    rw [← Function.iterate_succ_apply]
    exact hzero (m + 1) (Nat.succ_lt_succ hm)

/-! ## Keys -/

theorem generate_short {seed : Bytes} (h : seed.length < minimumSeedLength) :
    generate seed = .error (.shortSeed seed.length) :=
  if_pos h

/-- A generated key is that of a scalar other than zero. -/
theorem exists_scalar_of_generate {seed : Bytes} {x : PrivateKey} (h : generate seed = .ok x) :
    ∃ k : Scalar, k.isZero = false ∧ x = .ofScalar k := by
  unfold generate at h
  split at h
  · cases h
  · cases h
    exact ⟨_, (firstNonzero (candidate · seed) firstSalt).isZero_scalar, rfl⟩

theorem decode_generate {seed : Bytes} {x : PrivateKey} (h : generate seed = .ok x) :
    PrivateKey.decode x.encode = .ok x := by
  obtain ⟨k, hk, rfl⟩ := exists_scalar_of_generate h
  refine (PrivateKey.decode_eq_ok_iff _ _).2 ⟨rfl, ?_⟩
  rw [← PrivateKey.val_scalar, PrivateKey.scalar_ofScalar]
  exact Nat.pos_of_ne_zero fun h0 => Bool.false_ne_true (hk.symm.trans ((Scalar.isZero_iff k).2 h0))

/-- The key is the first candidate other than zero, of whatever attempt. -/
theorem generate_of_attempts {seed : Bytes} (hlength : minimumSeedLength ≤ seed.length) {n : Nat}
    (hzero : ∀ m < n, (candidate (saltAt m) seed).isZero = true)
    (h : (candidate (saltAt n) seed).isZero = false) :
    generate seed = .ok (.ofScalar (candidate (saltAt n) seed)) := by
  have hscalar : (firstNonzero (candidate · seed) firstSalt).scalar = candidate (saltAt n) seed :=
    firstNonzero_of_attempts hzero h
  rw [generate, if_neg (Nat.not_lt.2 hlength), hscalar]

/-- Mostly that is the candidate of the first attempt. -/
theorem generate_of_candidate {seed : Bytes} (hlength : minimumSeedLength ≤ seed.length)
    (h : (candidate firstSalt seed).isZero = false) :
    generate seed = .ok (.ofScalar (candidate firstSalt seed)) :=
  generate_of_attempts (n := 0) hlength (fun _ hm => absurd hm (Nat.not_lt_zero _)) h

end PairingSig.KeyGeneration
