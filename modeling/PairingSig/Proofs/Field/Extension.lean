import Mathlib.Tactic.FieldSimp
import Mathlib.Tactic.LinearCombination
import PairingSig.Field.Quadratic
import PairingSig.Proofs.Field.Base

/-!
# The quadratic extension is a field

Minus one has no root in the base field, so adjoining one gives a field: an element other than zero
has a norm other than zero. Square roots go through the norm, of whose two roots one leads to a root
of the element.

- **Laws**: the coordinates of the operations, and the field;
- **Square roots**: `mul_self_of_sqrt?` and `exists_sqrt?`, as over the base field;
- **Signs**: `isLarger_neg`.
-/

namespace PairingSig.Fp2

/-! ## Laws -/

@[simp] theorem c0_zero : (0 : Fp2).c0 = 0 := rfl

@[simp] theorem c1_zero : (0 : Fp2).c1 = 0 := rfl

@[simp] theorem c0_one : (1 : Fp2).c0 = 1 := rfl

@[simp] theorem c1_one : (1 : Fp2).c1 = 0 := rfl

@[simp] theorem c0_add (x y : Fp2) : (x + y).c0 = x.c0 + y.c0 := rfl

@[simp] theorem c1_add (x y : Fp2) : (x + y).c1 = x.c1 + y.c1 := rfl

@[simp] theorem c0_sub (x y : Fp2) : (x - y).c0 = x.c0 - y.c0 := rfl

@[simp] theorem c1_sub (x y : Fp2) : (x - y).c1 = x.c1 - y.c1 := rfl

@[simp] theorem c0_neg (x : Fp2) : (-x).c0 = -x.c0 := rfl

@[simp] theorem c1_neg (x : Fp2) : (-x).c1 = -x.c1 := rfl

@[simp] theorem c0_mul (x y : Fp2) : (x * y).c0 = x.c0 * y.c0 - x.c1 * y.c1 := rfl

@[simp] theorem c1_mul (x y : Fp2) : (x * y).c1 = x.c0 * y.c1 + x.c1 * y.c0 := rfl

theorem c0_inv (x : Fp2) : x⁻¹.c0 = (norm x)⁻¹ * x.c0 := rfl

theorem c1_inv (x : Fp2) : x⁻¹.c1 = (norm x)⁻¹ * -x.c1 := rfl

instance : CommRing Fp2 where
  add_assoc x y z := Fp2.ext (add_assoc _ _ _) (add_assoc _ _ _)
  zero_add x := Fp2.ext (zero_add _) (zero_add _)
  add_zero x := Fp2.ext (add_zero _) (add_zero _)
  add_comm x y := Fp2.ext (add_comm _ _) (add_comm _ _)
  -- In each coordinate a law of the product is an identity of polynomials.
  left_distrib x y z := by ext1 <;> simp only [c0_mul, c1_mul, c0_add, c1_add] <;> ring
  right_distrib x y z := by ext1 <;> simp only [c0_mul, c1_mul, c0_add, c1_add] <;> ring
  zero_mul x := by ext1 <;> simp only [c0_mul, c1_mul, c0_zero, c1_zero] <;> ring
  mul_zero x := by ext1 <;> simp only [c0_mul, c1_mul, c0_zero, c1_zero] <;> ring
  mul_assoc x y z := by ext1 <;> simp only [c0_mul, c1_mul] <;> ring
  one_mul x := by ext1 <;> simp only [c0_mul, c1_mul, c0_one, c1_one] <;> ring
  mul_one x := by ext1 <;> simp only [c0_mul, c1_mul, c0_one, c1_one] <;> ring
  mul_comm x y := by ext1 <;> simp only [c0_mul, c1_mul] <;> ring
  neg_add_cancel x := Fp2.ext (neg_add_cancel _) (neg_add_cancel _)
  sub_eq_add_neg x y := Fp2.ext (sub_eq_add_neg _ _) (sub_eq_add_neg _ _)
  nsmul := nsmulRec
  zsmul := zsmulRec

/-- An element of norm zero is zero; otherwise minus one would be the square of a quotient. -/
theorem norm_eq_zero_iff {x : Fp2} : norm x = 0 ↔ x = 0 := by
  constructor
  · intro h
    have h1 : x.c1 = 0 := by
      -- Otherwise the quotient of the coordinates would be a root of minus one.
      by_contra h1
      apply Fp.neg_one_not_isSquare
      refine ⟨x.c0 / x.c1, ?_⟩
      field_simp
      rw [norm] at h
      linear_combination -h
    have h0 : x.c0 * x.c0 = 0 := by
      rwa [norm, h1, mul_zero, add_zero] at h
    exact Fp2.ext (mul_self_eq_zero.1 h0) h1
  · rintro rfl
    rw [norm, c0_zero, c1_zero, mul_zero, add_zero]

theorem norm_mul (x y : Fp2) : norm (x * y) = norm x * norm y := by
  simp only [norm, c0_mul, c1_mul]
  ring

instance : Nontrivial Fp2 :=
  ⟨0, 1, by decide⟩

instance : Field Fp2 where
  mul_inv_cancel x hx := by
    have hnorm : norm x ≠ 0 := mt norm_eq_zero_iff.1 hx
    -- The product with the conjugate is the norm, and its second coordinate is zero.
    ext1
    · rw [c0_mul, c0_inv, c1_inv, c0_one, ← mul_inv_cancel₀ hnorm]
      simp only [norm]
      ring
    · rw [c1_mul, c0_inv, c1_inv, c1_one]
      ring
  inv_zero := by
    ext1
    · rw [c0_inv, c0_zero, mul_zero]
    · rw [c1_inv, c1_zero, neg_zero, mul_zero]
  nnqsmul := _
  nnqsmul_def := fun _ _ => rfl
  qsmul := _
  qsmul_def := fun _ _ => rfl

/-! ## Square roots -/

theorem half_add_half (x : Fp) : half x + half x = x := by
  have hone : Fp.ofNat ((fieldOrder + 1) / 2) + Fp.ofNat ((fieldOrder + 1) / 2) = 1 := by
    decide +kernel
  rw [half, ← mul_add, hone, mul_one]

/-- A root of the half of `a + s`, where `s` is a root of the norm, leads to a root of `a + b·u`. -/
theorem mul_self_of_rootFrom? {a b s : Fp} {r : Fp2} (hb : b ≠ 0) (hs : s * s = a * a + b * b)
    (h : rootFrom? b (half (a + s)) = some r) : r * r = ⟨a, b⟩ := by
  rw [rootFrom?_eq] at h
  obtain ⟨c, hc, rfl⟩ := Option.map_eq_some_iff.1 h
  have hsquare : c * c + c * c = a + s := by
    rw [Fp.mul_self_of_sqrt? hc, half_add_half]
  -- Were `c` zero, `s` would be `-a`, and the norm would leave no room for `b`.
  have hcc : c + c ≠ 0 := by
    intro h0
    apply hb
    have hsa : a + s = 0 := by
      rw [← hsquare, ← mul_add, h0, mul_zero]
    apply mul_self_eq_zero.1
    linear_combination (s - a) * hsa - hs
  have hd : (c + c) * (b * (c + c)⁻¹) = b := by
    rw [mul_comm, inv_mul_cancel_right₀ hcc]
  -- From here on only the equation of `d` matters, not that it is a quotient.
  generalize b * (c + c)⁻¹ = d at hd ⊢
  ext1
  · show c * c - d * d = a
    -- Both sides agree after multiplication with four times the square of `c`.
    apply mul_left_cancel₀ (mul_ne_zero hcc hcc)
    linear_combination (c * c + c * c + s - a) * hsquare + hs - ((c + c) * d + b) * hd
  · show c * d + d * c = b
    rw [← hd]
    ring

/-- What is returned as a root is one. -/
theorem mul_self_of_sqrt? {x r : Fp2} (h : sqrt? x = some r) : r * r = x := by
  by_cases h1 : x.c1 = 0
  · -- The root lies in the base field, or it is a multiple of `u`.
    rw [sqrt?_of_c1_eq_zero h1, Option.or_eq_some_iff] at h
    obtain h | ⟨-, h⟩ := h
    · obtain ⟨c, hc, rfl⟩ := Option.map_eq_some_iff.1 h
      ext1
      · rw [c0_mul, mul_zero, sub_zero, Fp.mul_self_of_sqrt? hc]
      · rw [c1_mul, mul_zero, zero_mul, add_zero, h1]
    · obtain ⟨d, hd, rfl⟩ := Option.map_eq_some_iff.1 h
      ext1
      · rw [c0_mul, mul_zero, zero_sub, Fp.mul_self_of_sqrt? hd, neg_neg]
      · rw [c1_mul, mul_zero, zero_mul, add_zero, h1]
  · -- It comes from a root of the norm.
    rw [sqrt?_of_c1_ne_zero h1, Option.bind_eq_some_iff] at h
    obtain ⟨s, hs, h⟩ := h
    have hnorm : s * s = x.c0 * x.c0 + x.c1 * x.c1 := Fp.mul_self_of_sqrt? hs
    obtain h | ⟨-, h⟩ := Option.or_eq_some_iff.1 h
    · exact mul_self_of_rootFrom? h1 hnorm h
    · -- The other root of the norm leads to a root as well, if it leads anywhere.
      rw [sub_eq_add_neg] at h
      exact mul_self_of_rootFrom? h1 (by rw [neg_mul_neg, hnorm]) h

theorem half_norm_mul_self (y : Fp2) : half ((y * y).c0 + norm y) = y.c0 * y.c0 := by
  have hsum : (y * y).c0 + norm y = y.c0 * y.c0 + y.c0 * y.c0 := by
    rw [c0_mul, norm]
    ring
  rw [hsum, half, add_mul]
  exact half_add_half (y.c0 * y.c0)

/-- **Every square has a root returned.** -/
theorem exists_sqrt? {x : Fp2} (h : IsSquare x) : ∃ r, sqrt? x = some r := by
  obtain ⟨y, rfl⟩ := h
  simp only [← Option.isSome_iff_exists]
  by_cases h1 : (y * y).c1 = 0
  · rw [sqrt?_of_c1_eq_zero h1, Option.isSome_or, Option.isSome_map, Option.isSome_map,
      Bool.or_eq_true, Option.isSome_iff_exists, Option.isSome_iff_exists]
    -- An element of the base field or its negative is a square there.
    exact (Fp.isSquare_or_isSquare_neg _).imp Fp.exists_sqrt? Fp.exists_sqrt?
  · obtain ⟨s, hs⟩ := Fp.exists_sqrt? ⟨norm y, norm_mul y y⟩
    rw [sqrt?_of_c1_ne_zero h1, hs, Option.bind_some, Option.isSome_or, rootFrom?_eq, rootFrom?_eq,
      Option.isSome_map, Option.isSome_map, Bool.or_eq_true, Option.isSome_iff_exists,
      Option.isSome_iff_exists]
    have hnorm : s * s = norm y * norm y := by
      rw [Fp.mul_self_of_sqrt? hs, norm_mul]
    -- Of the two roots of the norm, `norm y` is the one that leads to a root.
    have hroot : ∃ c, Fp.sqrt? (half ((y * y).c0 + norm y)) = some c :=
      Fp.exists_sqrt? ⟨y.c0, half_norm_mul_self y⟩
    obtain rfl | rfl := mul_self_eq_mul_self_iff.1 hnorm
    · exact .inl hroot
    · rw [sub_neg_eq_add]
      exact .inr hroot

/-! ## Signs -/

theorem isLarger_neg {x : Fp2} (hx : x ≠ 0) : isLarger (-x) = !isLarger x := by
  unfold isLarger
  by_cases h1 : x.c1 = 0
  · have h0 : x.c0 ≠ 0 := fun h0 => hx (Fp2.ext h0 h1)
    rw [if_pos h1, if_pos (by rw [c1_neg, h1, neg_zero]), c0_neg, Fp.isLarger_neg h0]
  · rw [if_neg h1, if_neg (by rwa [c1_neg, neg_eq_zero]), c1_neg, Fp.isLarger_neg h1]

end PairingSig.Fp2
