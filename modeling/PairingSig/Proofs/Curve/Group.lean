import Mathlib.AlgebraicGeometry.EllipticCurve.Affine.Point
import PairingSig.Curve.Compressed
import PairingSig.Proofs.Binary

/-!
# The group of a curve

The points of `y² = x³ + b` form a group, with the point at infinity as its identity. This module
shows that the operations on homogeneous coordinates are those of the group.

- **The curve**: `curve`; `NoOrderTwo` is the condition under which sums need no cases;
- **Representatives**: a triple that `Represents` a point is a multiple of its normal form, so two
  triples of one point are `Proportional`; `exists_represents` finds the point of a triple;
- **Points of order two**: `nonsingular_iff`, without them every point has a tangent;
- **Lines**: `exists_slope`, the sum of two points that are not opposite lies on their line;
- **Operations**: `Represents.add`, `Represents.double` and `Represents.multiple`;
- **The subgroup**: `Represents.inSubgroup_iff`, the test decides whether `groupOrder` annihilates a
  point.
-/

namespace PairingSig

open WeierstrassCurve (Affine)

variable {F : Type} [Field F] [CurveConstant F]

/-! ## The curve -/

variable (F) in
/-- The curve `y² = x³ + b` over a field. -/
def curve : Affine F :=
  ⟨0, 0, 0, 0, CurveConstant.b⟩

/-- Affine coordinates of a point of the curve. -/
def OnCurve (x y : F) : Prop :=
  y * y = x * x * x + CurveConstant.b

instance [DecidableEq F] (x y : F) : Decidable (OnCurve x y) :=
  inferInstanceAs (Decidable (_ = _))

theorem equation_iff {x y : F} : (curve F).Equation x y ↔ OnCurve x y := by
  rw [Affine.equation_iff, OnCurve]
  simp only [curve, zero_mul, add_zero, pow_succ, pow_zero, one_mul]

theorem negY_eq (x y : F) : (curve F).negY x y = -y := by
  simp only [Affine.negY, curve, zero_mul, sub_zero]

theorem OnCurve.neg {x y : F} (h : OnCurve x y) : OnCurve x (-y) := by
  rwa [OnCurve, neg_mul_neg]

theorem OnCurve.eq_or_eq_neg {x y y' : F} (h : OnCurve x y) (h' : OnCurve x y') :
    y = y' ∨ y = -y' :=
  mul_self_eq_mul_self_iff.1 (h.trans h'.symm)

/-- Points that share their `x` and are not opposite are one. -/
theorem OnCurve.eq_of_ne_neg {x y y' : F} (h : OnCurve x y) (h' : OnCurve x y') (hne : y ≠ -y') :
    y = y' :=
  (h.eq_or_eq_neg h').resolve_right hne

/-! ## Representatives -/

namespace Point

/-- The triple of a point with last coordinate one, or that of the identity. -/
def normal : (curve F).Point → Point F
  | .zero => identity
  | .some x y _ => affine x y

omit [CurveConstant F] in
/-- A multiple of a triple. -/
def scale (k : F) (P : Point F) : Point F :=
  ⟨k * P.x, k * P.y, k * P.z⟩

omit [CurveConstant F] in
/-- Two triples are multiples of each other. -/
def Proportional (P Q : Point F) : Prop :=
  ∃ k, k ≠ 0 ∧ Q = P.scale k

omit [CurveConstant F] in
theorem Proportional.refl (P : Point F) : P.Proportional P :=
  ⟨1, one_ne_zero, by ext <;> simp only [scale, one_mul]⟩

/-- A triple represents a point when it is a multiple of the point's normal form. -/
def Represents (P : Point F) (A : (curve F).Point) : Prop :=
  ∃ k, k ≠ 0 ∧ P = scale k (normal A)

theorem normal_injective : Function.Injective (normal : (curve F).Point → Point F) := by
  intro A B h
  -- The last coordinate tells the identity, the other two tell any other point.
  cases A with
  | zero =>
    cases B with
    | zero => rfl
    | some x y _ => exact absurd (congrArg Point.z h) zero_ne_one
  | some x y _ =>
    cases B with
    | zero => exact absurd (congrArg Point.z h) one_ne_zero
    | some x' y' _ =>
      obtain rfl : x = x' := congrArg Point.x h
      obtain rfl : y = y' := congrArg Point.y h
      rfl

theorem represents_normal (A : (curve F).Point) : (normal A).Represents A :=
  ⟨1, one_ne_zero, by ext <;> simp only [scale, one_mul]⟩

theorem Represents.scale {P : Point F} {A : (curve F).Point} (h : P.Represents A) {k : F}
    (hk : k ≠ 0) : (P.scale k).Represents A := by
  obtain ⟨l, hl, rfl⟩ := h
  exact ⟨k * l, mul_ne_zero hk hl, by ext <;> simp only [Point.scale, mul_assoc]⟩

omit [CurveConstant F] in
/-- Multiples of a triple have the same quotients. -/
theorem toAffine_scale {k : F} (hk : k ≠ 0) (P : Point F) :
    (P.scale k).toAffine = P.toAffine := by
  have hquotient : ∀ a : F, k * a * (k * P.z)⁻¹ = a * P.z⁻¹ := by
    intro a
    rw [mul_comm k a, mul_inv, mul_assoc, mul_inv_cancel_left₀ hk]
  simp only [toAffine, Point.scale, hquotient]

/-- Triples of one point are multiples of each other. -/
theorem Represents.proportional {P Q : Point F} {A : (curve F).Point} (hP : P.Represents A)
    (hQ : Q.Represents A) : P.Proportional Q := by
  obtain ⟨k, hk, rfl⟩ := hP
  obtain ⟨l, hl, rfl⟩ := hQ
  -- From the one triple back to the normal form, and on to the other.
  refine ⟨l * k⁻¹, mul_ne_zero hl (inv_ne_zero hk), ?_⟩
  ext <;> simp only [Point.scale, ← mul_assoc, inv_mul_cancel_right₀ hk]

/-- Scaling the arguments of a sum scales the sum. -/
theorem add_scale (k l : F) (P Q : Point F) :
    (P.scale k).add (Q.scale l) = (P.add Q).scale (k * l * (k * l)) := by
  ext <;> simp only [add, Point.scale, triple] <;> ring

theorem Proportional.add {P P' Q Q' : Point F} (hP : P.Proportional P') (hQ : Q.Proportional Q') :
    (P.add Q).Proportional (P'.add Q') := by
  obtain ⟨k, hk, rfl⟩ := hP
  obtain ⟨l, hl, rfl⟩ := hQ
  exact ⟨_, mul_ne_zero (mul_ne_zero hk hl) (mul_ne_zero hk hl), add_scale k l P Q⟩

theorem double_scale (k : F) (P : Point F) :
    (P.scale k).double = P.double.scale (k * k * (k * k)) := by
  ext <;> simp only [double, Point.scale, triple] <;> ring

theorem add_identity (x y : F) : (affine x y).add identity = scale y (affine x y) := by
  ext <;> simp only [add, scale, affine, identity, triple] <;> ring

theorem identity_add_identity : (identity : Point F).add identity = identity := by
  ext <;> simp only [add, identity, triple] <;> ring

theorem double_identity : (identity : Point F).double = identity := by
  ext <;> simp only [double, identity, triple] <;> ring

theorem add_comm (P Q : Point F) : P.add Q = Q.add P := by
  ext <;> simp only [add, triple] <;> ring

/-- Doubling gives what adding a point to itself gives. -/
theorem double_affine {x y : F} (h : OnCurve x y) :
    (affine x y).double = (affine x y).add (affine x y) := by
  rw [OnCurve] at h
  ext <;> simp only [add, double, affine, triple] <;> grind

section

variable [DecidableEq F]

omit [CurveConstant F] in
theorem isIdentity_identity : (identity : Point F).isIdentity = true :=
  decide_eq_true rfl

omit [CurveConstant F] in
theorem isIdentity_affine (x y : F) : (affine x y).isIdentity = false :=
  decide_eq_false one_ne_zero

omit [CurveConstant F] in
theorem isIdentity_scale {k : F} (hk : k ≠ 0) (P : Point F) :
    (P.scale k).isIdentity = P.isIdentity := by
  rw [isIdentity, isIdentity, decide_eq_decide]
  exact mul_eq_zero_iff_left hk

/-- The identity is told by its last coordinate. -/
theorem Represents.isIdentity_iff {P : Point F} {A : (curve F).Point}
    (h : P.Represents A) : P.isIdentity = true ↔ A = 0 := by
  obtain ⟨k, hk, rfl⟩ := h
  rw [isIdentity, decide_eq_true_iff]
  cases A with
  | zero => exact iff_of_true (mul_zero k) rfl
  | some x y h =>
    refine iff_of_false ?_ (Affine.Point.some_ne_zero h)
    show k * 1 ≠ 0
    rwa [mul_one]

end

end Point

/-! ## Points of order two -/

/-- The curve has no point of order two, which would have `y = 0`. -/
class NoOrderTwo (F : Type) [Field F] [CurveConstant F] : Prop where
  two_ne_zero : (2 : F) ≠ 0
  cube_add_ne_zero : ∀ x : F, x * x * x + CurveConstant.b ≠ 0

variable [NoOrderTwo F]

theorem OnCurve.y_ne_zero {x y : F} (h : OnCurve x y) : y ≠ 0 := by
  rintro rfl
  rw [OnCurve, mul_zero] at h
  exact NoOrderTwo.cube_add_ne_zero x h.symm

theorem OnCurve.double_ne_zero {x y : F} (h : OnCurve x y) : y + y ≠ 0 := by
  rw [← two_mul]
  exact mul_ne_zero NoOrderTwo.two_ne_zero h.y_ne_zero

theorem OnCurve.ne_neg {x y : F} (h : OnCurve x y) : y ≠ -y := by
  rw [ne_eq, eq_neg_iff_add_eq_zero]
  exact h.double_ne_zero

/-- Every point of the curve has a tangent. -/
theorem nonsingular_iff {x y : F} : (curve F).Nonsingular x y ↔ OnCurve x y := by
  rw [Affine.nonsingular_iff, equation_iff, and_iff_left_iff_imp]
  intro h
  right
  show y ≠ (curve F).negY x y
  rw [negY_eq]
  exact h.ne_neg

/-- The point with given coordinates. -/
def OnCurve.point {x y : F} (h : OnCurve x y) : (curve F).Point :=
  .some x y (nonsingular_iff.2 h)

namespace Point

theorem normal_y_ne_zero (A : (curve F).Point) : (normal A).y ≠ 0 := by
  cases A with
  | zero => exact one_ne_zero
  | some x y h => exact (nonsingular_iff.1 h).y_ne_zero

/-- A triple represents the point whose coordinates are its quotients. -/
theorem represents_of_onCurve {P : Point F} (hz : P.z ≠ 0)
    (h : OnCurve (P.x * P.z⁻¹) (P.y * P.z⁻¹)) : P.Represents h.point := by
  refine ⟨P.z, hz, ?_⟩
  ext
  · show P.x = P.z * (P.x * P.z⁻¹)
    rw [mul_comm P.x, mul_inv_cancel_left₀ hz]
  · show P.y = P.z * (P.y * P.z⁻¹)
    rw [mul_comm P.y, mul_inv_cancel_left₀ hz]
  · exact (mul_one P.z).symm

/-- A triple that satisfies the equation of the curve in homogeneous form represents a point. -/
theorem exists_represents {P : Point F} (hz : P.z ≠ 0)
    (h : P.y * P.y * P.z = P.x * P.x * P.x + CurveConstant.b * (P.z * P.z * P.z)) :
    ∃ A : (curve F).Point, P.Represents A := by
  have hcurve : OnCurve (P.x * P.z⁻¹) (P.y * P.z⁻¹) := by
    -- The equation times the cube of the inverse; what remains are powers of the product `hk`.
    have hk := mul_inv_cancel₀ hz
    rw [OnCurve]
    generalize P.z⁻¹ = k at hk
    linear_combination k * k * k * h - (P.y * P.y * k * k -
      CurveConstant.b * (P.z * k * (P.z * k) + P.z * k + 1)) * hk
  exact ⟨_, represents_of_onCurve hz hcurve⟩

/-! ## Lines -/

/-- The slope of the chord through two points of the curve, or of the tangent where they are one. -/
def IsSlope (ℓ x₁ y₁ x₂ y₂ : F) : Prop :=
  x₁ ≠ x₂ ∧ ℓ * (x₁ - x₂) = y₁ - y₂ ∨ x₁ = x₂ ∧ y₁ = y₂ ∧ ℓ * (y₁ + y₁) = 3 * x₁ * x₁

/-- The third point of the curve on a line of slope `ℓ` through two of its points, mirrored. -/
def third (ℓ x₁ y₁ x₂ : F) : Point F :=
  affine (ℓ * ℓ - x₁ - x₂) (ℓ * (x₁ - (ℓ * ℓ - x₁ - x₂)) - y₁)

/-- The sum of two points on a line is their third point, up to a factor. -/
theorem add_of_isSlope {x₁ y₁ x₂ y₂ ℓ : F} (h₁ : OnCurve x₁ y₁) (h₂ : OnCurve x₂ y₂)
    (hℓ : IsSlope ℓ x₁ y₁ x₂ y₂) :
    (affine x₁ y₁).add (affine x₂ y₂) =
      scale ((affine x₁ y₁).add (affine x₂ y₂)).z (third ℓ x₁ y₁ x₂) := by
  have hneg := h₁.ne_neg
  rw [OnCurve] at h₁ h₂
  -- A chord, then a tangent: identities of polynomials, given the equations of the points.
  obtain ⟨hx, hslope⟩ | ⟨rfl, rfl, hslope⟩ := hℓ
  · ext <;> simp only [add, scale, third, affine, triple] <;> grind
  · ext <;> simp only [add, scale, third, affine, triple] <;> grind

/-- The sum of opposite points is a multiple of the identity by the `y` of their difference. -/
theorem add_opposite {x y ℓ : F} (h : OnCurve x y) (hℓ : IsSlope ℓ x y x y) :
    (affine x y).add (affine x (-y)) =
      scale ((y + y) * (y + y) * (y + y) * (third ℓ x y x).y) identity := by
  have hneg := h.ne_neg
  rw [OnCurve] at h
  -- The two points share their `x`, so the line is the tangent.
  obtain ⟨hx, -⟩ | ⟨-, -, hslope⟩ := hℓ
  · exact absurd rfl hx
  · ext <;> simp only [add, scale, third, affine, identity, triple] <;> grind

variable [DecidableEq F]

/-- The slope that the group law is defined with is that of the chord or of the tangent. -/
theorem isSlope_slope {x₁ y₁ x₂ y₂ : F} (h₁ : OnCurve x₁ y₁) (h₂ : OnCurve x₂ y₂)
    (hne : ¬(x₁ = x₂ ∧ y₁ = -y₂)) : IsSlope ((curve F).slope x₁ x₂ y₁ y₂) x₁ y₁ x₂ y₂ := by
  by_cases hx : x₁ = x₂
  · -- The points are one, and the slope is that of its tangent, which has no zero denominator.
    subst hx
    obtain rfl := h₁.eq_of_ne_neg h₂ fun h => hne ⟨rfl, h⟩
    have hneg : y₁ ≠ (curve F).negY x₁ y₁ := by
      rw [negY_eq]
      exact h₁.ne_neg
    refine .inr ⟨rfl, rfl, ?_⟩
    rw [Affine.slope_of_Y_ne rfl hneg, negY_eq, sub_neg_eq_add, div_mul_cancel₀]
    · simp only [curve, mul_zero, zero_mul, add_zero, sub_zero, sq, mul_assoc]
    · exact h₁.double_ne_zero
  · -- Otherwise it is that of the chord.
    refine .inl ⟨hx, ?_⟩
    rw [Affine.slope_of_X_ne hx, div_mul_cancel₀ _ (sub_ne_zero.2 hx)]

/-- The group law takes the third point on the line of its slope. -/
theorem normal_add_eq_third {x₁ y₁ x₂ y₂ : F} (h₁ : OnCurve x₁ y₁) (h₂ : OnCurve x₂ y₂)
    (hne : ¬(x₁ = x₂ ∧ y₁ = -y₂)) :
    normal (h₁.point + h₂.point) = third ((curve F).slope x₁ x₂ y₁ y₂) x₁ y₁ x₂ := by
  have hne' : ¬(x₁ = x₂ ∧ y₁ = (curve F).negY x₂ y₂) := by
    rwa [negY_eq]
  rw [OnCurve.point, OnCurve.point, Affine.Point.add_some hne']
  show affine _ _ = affine _ _
  -- The library's formulas, with the coefficients that are zero here left out.
  generalize (curve F).slope x₁ x₂ y₁ y₂ = ℓ
  have hX : (curve F).addX x₁ x₂ ℓ = ℓ * ℓ - x₁ - x₂ := by
    simp only [Affine.addX, curve, zero_mul, add_zero, sub_zero, sq]
  have hY : (curve F).addY x₁ x₂ y₁ ℓ = ℓ * (x₁ - (ℓ * ℓ - x₁ - x₂)) - y₁ := by
    rw [Affine.addY, negY_eq, Affine.negAddY, hX]
    ring
  rw [hX, hY]

/-- The sum of two points that are not opposite is found on their line. -/
theorem exists_slope {x₁ y₁ x₂ y₂ : F} (h₁ : OnCurve x₁ y₁) (h₂ : OnCurve x₂ y₂)
    (hne : ¬(x₁ = x₂ ∧ y₁ = -y₂)) :
    ∃ ℓ, IsSlope ℓ x₁ y₁ x₂ y₂ ∧ normal (h₁.point + h₂.point) = third ℓ x₁ y₁ x₂ :=
  ⟨_, isSlope_slope h₁ h₂ hne, normal_add_eq_third h₁ h₂ hne⟩

theorem third_y_ne_zero {x₁ y₁ x₂ y₂ ℓ : F} {h₁ : OnCurve x₁ y₁}
    {h₂ : OnCurve x₂ y₂} (h : normal (h₁.point + h₂.point) = third ℓ x₁ y₁ x₂) :
    (third ℓ x₁ y₁ x₂).y ≠ 0 :=
  h ▸ normal_y_ne_zero _

omit [NoOrderTwo F] [DecidableEq F] in
/-- Added to itself, a point gives the cube of twice its `y`. -/
theorem add_self_z {x y : F} (h : OnCurve x y) :
    ((affine x y).add (affine x y)).z = (y + y) * (y + y) * (y + y) := by
  rw [OnCurve] at h
  simp only [add, affine, triple]
  grind

omit [NoOrderTwo F] [DecidableEq F] in
/-- Points of distinct `x` give the `y` of their difference, which is found on the line through the
first and the opposite of the second. -/
theorem add_z_of_ne {x₁ y₁ x₂ y₂ ℓ : F} (h₁ : OnCurve x₁ y₁) (h₂ : OnCurve x₂ y₂) (hx : x₁ ≠ x₂)
    (hℓ : IsSlope ℓ x₁ y₁ x₂ (-y₂)) :
    ((affine x₁ y₁).add (affine x₂ y₂)).z =
      -((x₁ - x₂) * (x₁ - x₂) * (x₁ - x₂) * (third ℓ x₁ y₁ x₂).y) := by
  obtain ⟨-, hslope⟩ | ⟨h, -⟩ := hℓ
  · rw [OnCurve] at h₁ h₂
    simp only [add, affine, third, triple]
    grind
  · exact absurd h hx

/-- The factor vanishes only for opposite points: for others with distinct `x`, it is the `y` of
their difference up to a factor, and no point has `y = 0`. -/
theorem add_z_ne_zero {x₁ y₁ x₂ y₂ : F} (h₁ : OnCurve x₁ y₁) (h₂ : OnCurve x₂ y₂)
    (hne : ¬(x₁ = x₂ ∧ y₁ = -y₂)) : ((affine x₁ y₁).add (affine x₂ y₂)).z ≠ 0 := by
  by_cases hx : x₁ = x₂
  · -- The points are one, and its double is not the identity.
    subst hx
    obtain rfl := h₁.eq_of_ne_neg h₂ fun h => hne ⟨rfl, h⟩
    have hyy := h₁.double_ne_zero
    rw [add_self_z h₁]
    exact mul_ne_zero (mul_ne_zero hyy hyy) hyy
  · -- The difference is the sum with the opposite point.
    obtain ⟨ℓ, hℓ, hsum⟩ := exists_slope h₁ h₂.neg fun h => hx h.1
    have hd := sub_ne_zero.2 hx
    rw [add_z_of_ne h₁ h₂ hx hℓ]
    exact neg_ne_zero.2 (mul_ne_zero (mul_ne_zero (mul_ne_zero hd hd) hd) (third_y_ne_zero hsum))

/-! ## Operations -/

/-- Opposite points: the formulas give a multiple of the identity. -/
theorem represents_add_neg {x y : F} (h : OnCurve x y) :
    ((affine x y).add (affine x (-y))).Represents (h.point + h.neg.point) := by
  have hopp : y = (curve F).negY x (-y) := by
    rw [negY_eq, neg_neg]
  rw [OnCurve.point, OnCurve.point, Affine.Point.add_of_Y_eq rfl hopp]
  -- The factor has the `y` of the double in it, so it is not zero.
  obtain ⟨ℓ, hℓ, hsum⟩ := exists_slope h h fun hself => h.ne_neg hself.2
  have hyy := h.double_ne_zero
  refine ⟨_, ?_, add_opposite h hℓ⟩
  exact mul_ne_zero (mul_ne_zero (mul_ne_zero hyy hyy) hyy) (third_y_ne_zero hsum)

/-- Any two points but the identity. -/
theorem represents_add_affine {x₁ y₁ x₂ y₂ : F} (h₁ : OnCurve x₁ y₁) (h₂ : OnCurve x₂ y₂) :
    ((affine x₁ y₁).add (affine x₂ y₂)).Represents (h₁.point + h₂.point) := by
  by_cases hopp : x₁ = x₂ ∧ y₁ = -y₂
  · obtain ⟨rfl, rfl⟩ := hopp
    have h := represents_add_neg h₁
    simp only [neg_neg] at h
    exact h
  · -- If they are not opposite, both sides are the third point on their line.
    obtain ⟨ℓ, hℓ, hsum⟩ := exists_slope h₁ h₂ hopp
    refine ⟨_, add_z_ne_zero h₁ h₂ hopp, ?_⟩
    rw [hsum]
    exact add_of_isSlope h₁ h₂ hℓ

/-- Adding the normal forms of two points gives their sum. -/
theorem represents_add_normal (A B : (curve F).Point) :
    ((normal A).add (normal B)).Represents (A + B) := by
  cases A with
  | zero =>
    cases B with
    | zero =>
      show (identity.add identity).Represents (0 + 0)
      rw [identity_add_identity, add_zero]
      exact represents_normal 0
    | some x y h =>
      -- Added to the identity, a point gives its multiple by its `y`.
      show (identity.add (affine x y)).Represents (0 + .some x y h)
      rw [add_comm, add_identity, zero_add]
      exact ⟨y, (nonsingular_iff.1 h).y_ne_zero, rfl⟩
  | some x₁ y₁ h₁ =>
    cases B with
    | zero =>
      show ((affine x₁ y₁).add identity).Represents (.some x₁ y₁ h₁ + 0)
      rw [add_identity, add_zero]
      exact ⟨y₁, (nonsingular_iff.1 h₁).y_ne_zero, rfl⟩
    | some x₂ y₂ h₂ =>
      exact represents_add_affine (nonsingular_iff.1 h₁) (nonsingular_iff.1 h₂)

variable {P Q : Point F} {A B : (curve F).Point}

/-- **Addition of triples is that of the group.** -/
theorem Represents.add (hP : P.Represents A) (hQ : Q.Represents B) :
    (P.add Q).Represents (A + B) := by
  obtain ⟨k, hk, rfl⟩ := hP
  obtain ⟨l, hl, rfl⟩ := hQ
  rw [add_scale]
  have hkl := mul_ne_zero hk hl
  exact (represents_add_normal A B).scale (mul_ne_zero hkl hkl)

/-- **Doubling of triples is that of the group.** -/
theorem Represents.double (hP : P.Represents A) : P.double.Represents (A + A) := by
  obtain ⟨k, hk, rfl⟩ := hP
  rw [double_scale]
  have hdouble : (normal A).double = (normal A).add (normal A) := by
    cases A with
    | zero => exact double_identity.trans identity_add_identity.symm
    | some x y h => exact double_affine (nonsingular_iff.1 h)
  rw [hdouble]
  have hkk := mul_ne_zero hk hk
  exact (represents_add_normal A A).scale (mul_ne_zero hkk hkk)

/-- **Multiples of triples are those of the group**, for factors of as many bits as are walked. -/
theorem Represents.multiple (hP : P.Represents A) (width n : Nat) :
    (P.multiple width n).Represents ((n % 2 ^ width) • A) := by
  rw [← Binary.combine_eq_nsmul]
  exact Binary.combine_rel Represents (represents_normal 0) (fun _ _ h => h.double)
    (fun _ _ h => h.add hP) width n

/-- **The test for the subgroup** decides whether `groupOrder` annihilates a point. -/
theorem Represents.inSubgroup_iff (hP : P.Represents A) :
    Compressed.inSubgroup P = true ↔ groupOrder • A = 0 := by
  have hlt : groupOrder < 2 ^ 255 := by decide
  have h := hP.multiple 255 groupOrder
  rw [Nat.mod_eq_of_lt hlt] at h
  exact h.isIdentity_iff

end Point

end PairingSig
