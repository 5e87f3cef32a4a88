import Mathlib.Data.List.Prime
import Mathlib.NumberTheory.LucasPrimality
import Mathlib.Tactic.NormNum.Prime
import PairingSig.GroupOrder
import PairingSig.Proofs.Binary

/-!
# The group order is prime

A number `p` is prime when some residue has the full order `p - 1`, which is seen from the prime
factors of `p - 1`: the power `p - 1` of the residue is one, and no power `(p - 1) / q` is. The
powers are formed by the binary method, so the kernel can evaluate them.

Main statements: `prime_of_factors`, the criterion; `groupOrder_prime`.
-/

namespace PairingSig

/-- The power `a ^ n` modulo `p`, for an exponent of `width` bits. -/
def residuePower (p width a n : Nat) : Nat :=
  Binary.combine 1 (fun y => y * y % p) (fun y => y * a % p) width n

theorem natCast_residuePower (p width a : Nat) {n : Nat} (hn : n < 2 ^ width) :
    (residuePower p width a n : ZMod p) = (a : ZMod p) ^ n := by
  have hpower := Binary.power_eq_pow width (a : ZMod p) n
  rw [Nat.mod_eq_of_lt hn] at hpower
  rw [← hpower]
  apply Binary.combine_hom (fun y : Nat => (y : ZMod p)) Nat.cast_one
  · intro y
    rw [ZMod.natCast_mod, Nat.cast_mul]
  · intro y
    rw [ZMod.natCast_mod, Nat.cast_mul]

/-- A power is one exactly when the number computed for it is, which is a residue. -/
theorem natCast_pow_eq_one_iff {p width a n : Nat} (hp : 1 < p) (hn : n < 2 ^ width) :
    (a : ZMod p) ^ n = 1 ↔ residuePower p width a n % p = 1 := by
  rw [← natCast_residuePower p width a hn, ← Nat.cast_one, ZMod.natCast_eq_natCast_iff',
    Nat.mod_eq_of_lt hp]

/-- **Primality from an element of full order**: `p` is prime when `p - 1` is the product of the
primes `factors`, and the order of `a` modulo `p` divides `p - 1` but none of the quotients by a
factor. -/
theorem prime_of_factors {p : Nat} (width a : Nat) (factors : List Nat) (hp : 1 < p)
    (hwidth : p < 2 ^ width) (hprime : ∀ q ∈ factors, q.Prime) (hprod : factors.prod = p - 1)
    (hone : residuePower p width a (p - 1) % p = 1)
    (hne : ∀ q ∈ factors, residuePower p width a ((p - 1) / q) % p ≠ 1) : p.Prime := by
  have hlt : p - 1 < 2 ^ width := by omega
  apply lucas_primality p (a : ZMod p)
  · exact (natCast_pow_eq_one_iff hp hlt).2 hone
  · intro q hq hdvd
    rw [← hprod] at hdvd
    -- A prime divisor of the product is one of the factors.
    obtain ⟨f, hf, hqf⟩ := (Prime.dvd_prod_iff hq.prime).1 hdvd
    obtain rfl : q = f := (Nat.prime_dvd_prime_iff_eq hq (hprime f hf)).1 hqf
    have hquot : (p - 1) / q < 2 ^ width := lt_of_le_of_lt (Nat.div_le_self _ _) hlt
    rw [ne_eq, natCast_pow_eq_one_iff hp hquot]
    exact hne q hf

/-- The prime factors of the group order less one, apart from two. -/
def groupOrderFactors : List Nat :=
  [3, 11, 19, 10177, 125527, 859267, 906349, 906349, 2508409, 2529403, 52437899, 254760293,
    254760293]

theorem prime_of_mem_groupOrderFactors : ∀ q ∈ groupOrderFactors, q.Prime := by
  simp only [groupOrderFactors, List.forall_mem_cons, List.not_mem_nil, false_imp_iff,
    implies_true, and_true]
  norm_num

theorem groupOrder_prime : groupOrder.Prime := by
  apply prime_of_factors 255 7 (List.replicate 32 2 ++ groupOrderFactors)
  · decide +kernel
  · decide +kernel
  · intro q hq
    obtain htwo | hodd := List.mem_append.1 hq
    · rw [List.eq_of_mem_replicate htwo]
      exact Nat.prime_two
    · exact prime_of_mem_groupOrderFactors q hodd
  -- The product of the factors, and the powers that show the order of seven.
  · decide +kernel
  · decide +kernel
  · decide +kernel

instance : Fact groupOrder.Prime := ⟨groupOrder_prime⟩

end PairingSig
