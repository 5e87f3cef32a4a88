import Mathlib.Algebra.Group.Basic
import Mathlib.Algebra.Group.TypeTags.Basic
import Mathlib.Algebra.Order.Ring.Nat
import PairingSig.Binary

/-!
# What the binary method computes

Complements the definition of `Binary.combine` with its meaning. The recursion walks the bits of the
exponent from the lowest one down to the highest one, so `n % 2 ^ width` is what a walk of `width`
bits sees of `n`.

Main statements: `combine_rel`, the method keeps every relation that its three ingredients keep;
`combine_hom`, it commutes with every map that respects them; `power_eq_pow` and
`combine_eq_nsmul`, in a monoid it computes powers or multiples.
-/

namespace PairingSig.Binary

/-- A relation that the start, the doubling and the joining keep holds of every combination. -/
theorem combine_rel {M N : Type} (R : M → N → Prop) {zero : M} {double join : M → M}
    {zero' : N} {double' join' : N → N} (hzero : R zero zero')
    (hdouble : ∀ x y, R x y → R (double x) (double' y))
    (hjoin : ∀ x y, R x y → R (join x) (join' y)) (width n : Nat) :
    R (combine zero double join width n) (combine zero' double' join' width n) := by
  -- Both sides branch on the same bits, which are those of `n`.
  induction width generalizing n with
  | zero => exact hzero
  | succ w ih =>
    simp only [combine]
    split
    · exact hjoin _ _ (hdouble _ _ (ih _))
    · exact hdouble _ _ (ih _)

/-- A map that respects the start, the doubling and the joining respects every combination. -/
theorem combine_hom {M N : Type} (f : M → N) {zero : M} {double join : M → M}
    {zero' : N} {double' join' : N → N} (hzero : f zero = zero')
    (hdouble : ∀ y, f (double y) = double' (f y)) (hjoin : ∀ y, f (join y) = join' (f y))
    (width n : Nat) :
    f (combine zero double join width n) = combine zero' double' join' width n := by
  refine combine_rel (fun x y => f x = y) hzero ?_ ?_ width n
  · rintro x _ rfl
    exact hdouble x
  · rintro x _ rfl
    exact hjoin x

/-- One more bit of an exponent: twice what the bits above it make up, and the bit itself. -/
theorem mod_two_pow_succ (n w : Nat) : n % 2 ^ (w + 1) = 2 * (n / 2 % 2 ^ w) + n % 2 := by
  rw [pow_succ', Nat.mod_mul, Nat.add_comm]

/-- **The binary method computes powers**, of exponents cut down to the bits it walks over. -/
theorem power_eq_pow {M : Type} [Monoid M] (width : Nat) (x : M) (n : Nat) :
    power width x n = x ^ (n % 2 ^ width) := by
  unfold power
  induction width generalizing n with
  | zero => rw [pow_zero, Nat.mod_one, pow_zero, combine]
  | succ w ih =>
    have hhalf : x ^ (2 * (n / 2 % 2 ^ w)) = x ^ (n / 2 % 2 ^ w) * x ^ (n / 2 % 2 ^ w) := by
      rw [two_mul, pow_add]
    simp only [combine, ih]
    rw [mod_two_pow_succ, pow_add, hhalf]
    -- The last bit decides whether one more factor joins the square.
    obtain h | h := Nat.mod_two_eq_zero_or_one n
    · rw [h, if_neg (by decide), pow_zero, mul_one]
    · rw [h, if_pos rfl, pow_one]

/-- In an additive monoid the method computes multiples. -/
theorem combine_eq_nsmul {M : Type} [AddMonoid M] (width : Nat) (a : M) (n : Nat) :
    combine 0 (fun b => b + b) (fun b => b + a) width n = (n % 2 ^ width) • a :=
  power_eq_pow width (Multiplicative.ofAdd a) n

end PairingSig.Binary
