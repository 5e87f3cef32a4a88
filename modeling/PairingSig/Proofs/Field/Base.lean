import Mathlib.FieldTheory.Finite.Basic
import PairingSig.Field.Prime
import PairingSig.Proofs.Binary
import PairingSig.Proofs.Field.Order

/-!
# The base field is a field

The operations on residues are those of the integers modulo `fieldOrder`, which is prime, so they
satisfy the laws of a field. On top of that come the laws of square roots and of the choice between
an element and its negative.

- **Laws**: `residue` maps into `ZMod fieldOrder`; `instField`;
- **Square roots**: `mul_self_of_sqrt?` and `exists_sqrt?`, a root is returned exactly for squares;
- **Signs**: `isLarger_neg`, of an element and its negative one is the larger one.
-/

namespace PairingSig.Fp

/-- The class of a residue. -/
def residue (x : Fp) : ZMod fieldOrder :=
  (x.val : ZMod fieldOrder)

theorem residue_injective : Function.Injective residue := by
  intro x y h
  have hval := (ZMod.natCast_eq_natCast_iff' _ _ _).1 h
  rw [Nat.mod_eq_of_lt x.isLt, Nat.mod_eq_of_lt y.isLt] at hval
  exact Fp.ext hval

/-! ## Laws -/

@[simp] theorem residue_ofNat (n : Nat) : residue (ofNat n) = n :=
  ZMod.natCast_mod n fieldOrder

@[simp] theorem residue_zero : residue 0 = 0 :=
  (residue_ofNat 0).trans Nat.cast_zero

@[simp] theorem residue_one : residue 1 = 1 :=
  (residue_ofNat 1).trans Nat.cast_one

@[simp] theorem residue_add (x y : Fp) : residue (x + y) = residue x + residue y :=
  (residue_ofNat _).trans (Nat.cast_add _ _)

@[simp] theorem residue_mul (x y : Fp) : residue (x * y) = residue x * residue y :=
  (residue_ofNat _).trans (Nat.cast_mul _ _)

/-- What is missing to the field order is the negative. -/
theorem natCast_fieldOrder_sub (x : Fp) :
    ((fieldOrder - x.val : Nat) : ZMod fieldOrder) = -residue x := by
  rw [Nat.cast_sub x.isLt.le, ZMod.natCast_self, zero_sub, residue]

@[simp] theorem residue_neg (x : Fp) : residue (-x) = -residue x :=
  (residue_ofNat _).trans (natCast_fieldOrder_sub x)

@[simp] theorem residue_sub (x y : Fp) : residue (x - y) = residue x - residue y := by
  refine (residue_ofNat _).trans ?_
  rw [Nat.cast_add, natCast_fieldOrder_sub, sub_eq_add_neg]
  rfl

instance : NatCast Fp := ⟨ofNat⟩

instance : CommRing Fp where
  add_assoc x y z := residue_injective (by simp only [residue_add, add_assoc])
  zero_add x := residue_injective (by simp only [residue_add, residue_zero, zero_add])
  add_zero x := residue_injective (by simp only [residue_add, residue_zero, add_zero])
  add_comm x y := residue_injective (by simp only [residue_add, add_comm])
  left_distrib x y z := residue_injective (by simp only [residue_add, residue_mul, left_distrib])
  right_distrib x y z := residue_injective (by simp only [residue_add, residue_mul, right_distrib])
  zero_mul x := residue_injective (by simp only [residue_mul, residue_zero, zero_mul])
  mul_zero x := residue_injective (by simp only [residue_mul, residue_zero, mul_zero])
  mul_assoc x y z := residue_injective (by simp only [residue_mul, mul_assoc])
  one_mul x := residue_injective (by simp only [residue_mul, residue_one, one_mul])
  mul_one x := residue_injective (by simp only [residue_mul, residue_one, mul_one])
  mul_comm x y := residue_injective (by simp only [residue_mul, mul_comm])
  neg_add_cancel x := residue_injective (by
    simp only [residue_add, residue_neg, residue_zero, neg_add_cancel])
  sub_eq_add_neg x y := residue_injective (by
    simp only [residue_sub, residue_add, residue_neg, sub_eq_add_neg])
  nsmul := nsmulRec
  zsmul := zsmulRec
  natCast_zero := rfl
  natCast_succ n := residue_injective (by
    have hn : residue (NatCast.natCast n) = n := residue_ofNat n
    rw [residue_add, residue_one, hn, ← Nat.cast_succ]
    exact residue_ofNat (n + 1))

theorem residue_pow (x : Fp) (n : Nat) : residue (x ^ n) = residue x ^ n := by
  induction n with
  | zero => rw [pow_zero, pow_zero, residue_one]
  | succ n ih => rw [pow_succ, pow_succ, residue_mul, ih]

theorem residue_eq_zero_iff {x : Fp} : residue x = 0 ↔ x = 0 := by
  rw [← residue_zero, residue_injective.eq_iff]

/-- **Little theorem of Fermat.** -/
theorem pow_fieldOrder_sub_one {x : Fp} (hx : x ≠ 0) : x ^ (fieldOrder - 1) = 1 := by
  apply residue_injective
  rw [residue_pow, residue_one]
  exact ZMod.pow_card_sub_one_eq_one (mt residue_eq_zero_iff.1 hx)

theorem power_eq_pow {n : Nat} (hn : n < 2 ^ 381) (x : Fp) : Binary.power 381 x n = x ^ n := by
  rw [Binary.power_eq_pow, Nat.mod_eq_of_lt hn]

theorem inv_eq_pow (x : Fp) : x⁻¹ = x ^ (fieldOrder - 2) := by
  have hexp : fieldOrder - 2 < 2 ^ 381 := by decide +kernel
  exact power_eq_pow hexp x

instance : Nontrivial Fp :=
  ⟨0, 1, by decide⟩

instance : Field Fp where
  mul_inv_cancel x hx := by
    have hexp : fieldOrder - 2 + 1 = fieldOrder - 1 := by decide
    rw [inv_eq_pow, ← pow_succ', hexp, pow_fieldOrder_sub_one hx]
  inv_zero := by
    rw [inv_eq_pow, zero_pow (by decide)]
  nnqsmul := _
  nnqsmul_def := fun _ _ => rfl
  qsmul := _
  qsmul_def := fun _ _ => rfl

/-! ## Square roots -/

/-- The power that is tried as a root. -/
def candidate (a : Fp) : Fp :=
  a ^ ((fieldOrder + 1) / 4)

theorem sqrt?_eq (a : Fp) :
    sqrt? a = if candidate a * candidate a = a then some (candidate a) else none := by
  have hexp : (fieldOrder + 1) / 4 < 2 ^ 381 := by decide +kernel
  rw [candidate, ← power_eq_pow hexp]
  rfl

/-- The order leaves remainder three modulo four, so the candidate is a root of `a` or of `-a`. -/
theorem mul_self_candidate {a : Fp} (ha : a ≠ 0) :
    candidate a * candidate a = a ∨ candidate a * candidate a = -a := by
  -- The square of the candidate is `a` times a root of one.
  have hsq : candidate a * candidate a = a * a ^ ((fieldOrder - 1) / 2) := by
    have hexp : (fieldOrder + 1) / 4 + (fieldOrder + 1) / 4 = (fieldOrder - 1) / 2 + 1 := by decide
    rw [candidate, ← pow_add, hexp, pow_succ']
  have hone : a ^ ((fieldOrder - 1) / 2) * a ^ ((fieldOrder - 1) / 2) = 1 := by
    have hexp : (fieldOrder - 1) / 2 + (fieldOrder - 1) / 2 = fieldOrder - 1 := by decide
    rw [← pow_add, hexp, pow_fieldOrder_sub_one ha]
  -- That root is one for squares and minus one for all other elements.
  obtain h | h := mul_self_eq_one_iff.1 hone
  · exact .inl (by rw [hsq, h, mul_one])
  · exact .inr (by rw [hsq, h, mul_neg_one])

theorem sqrt?_zero : sqrt? 0 = some 0 := by decide +kernel

/-- What is returned as a root is one. -/
theorem mul_self_of_sqrt? {a y : Fp} (h : sqrt? a = some y) : y * y = a := by
  rw [sqrt?_eq] at h
  split at h
  · rename_i hroot
    cases h
    exact hroot
  · cases h

/-- Minus one has no root: it is an odd power of itself, half the order of the units. -/
theorem neg_one_not_isSquare : ¬ IsSquare (-1 : Fp) := by
  rintro ⟨y, hy⟩
  have hy0 : y ≠ 0 := by
    rintro rfl
    exact neg_ne_zero.2 one_ne_zero (hy.trans (mul_zero 0))
  -- Were it a square, its power to half the order of the units would be one.
  have hexp : fieldOrder - 1 = 2 * ((fieldOrder - 1) / 2) := by decide
  have hodd : Odd ((fieldOrder - 1) / 2) := by decide
  have hpow := pow_fieldOrder_sub_one hy0
  rw [hexp, pow_mul, sq, ← hy, hodd.neg_one_pow] at hpow
  revert hpow
  decide

/-- **Every square has a root returned.** Were the candidate a root of `-a` instead, minus one would
be a square, too. -/
theorem exists_sqrt? {a : Fp} (h : IsSquare a) : ∃ y, sqrt? a = some y := by
  obtain rfl | ha := eq_or_ne a 0
  · exact ⟨0, sqrt?_zero⟩
  · obtain hroot | hroot := mul_self_candidate ha
    · exact ⟨candidate a, by rw [sqrt?_eq, if_pos hroot]⟩
    · have hneg : IsSquare (-a / a) := IsSquare.div ⟨_, hroot.symm⟩ h
      rw [neg_div, div_self ha] at hneg
      exact absurd hneg neg_one_not_isSquare

/-- Of an element and its negative, one is a square. -/
theorem isSquare_or_isSquare_neg (a : Fp) : IsSquare a ∨ IsSquare (-a) := by
  obtain rfl | ha := eq_or_ne a 0
  · exact .inl .zero
  · exact (mul_self_candidate ha).imp (fun h => ⟨_, h.symm⟩) fun h => ⟨_, h.symm⟩

/-! ## Cubes -/

/-- The powers by a third of the order of the units tell elements that are no cubes. -/
theorem cube_ne_of_power_ne_one {a : Fp} (ha : a ≠ 0)
    (h : Binary.power 381 a ((fieldOrder - 1) / 3) ≠ 1) (x : Fp) : x * x * x ≠ a := by
  rintro rfl
  have hx : x ≠ 0 := by
    rintro rfl
    exact ha (mul_zero _)
  have hlt : (fieldOrder - 1) / 3 < 2 ^ 381 := by decide +kernel
  have hexp : 3 * ((fieldOrder - 1) / 3) = fieldOrder - 1 := by decide
  apply h
  rw [power_eq_pow hlt, ← pow_two, ← pow_succ, ← pow_mul, hexp, pow_fieldOrder_sub_one hx]

/-! ## Signs -/

theorem val_neg {x : Fp} (hx : x ≠ 0) : (-x).val = fieldOrder - x.val := by
  apply Nat.mod_eq_of_lt
  have hpos : x.val ≠ 0 := fun h => hx (Fp.ext h)
  have hlt := x.isLt
  omega

/-- Of an element and its negative, exactly one is the larger one: the order is odd. -/
theorem isLarger_neg {x : Fp} (hx : x ≠ 0) : isLarger (-x) = !isLarger x := by
  have hlt := x.isLt
  have hodd : fieldOrder % 2 = 1 := by decide
  rw [isLarger, isLarger, neg_neg, val_neg hx, ← decide_not, decide_eq_decide]
  omega

end PairingSig.Fp
