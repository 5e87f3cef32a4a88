import Mathlib.NumberTheory.LegendreSymbol.QuadraticChar.Basic
import PairingSig.HashToCurve.Basic
import PairingSig.Proofs.Curve.Standard

/-!
# Messages are hashed to the curve

Whatever two field elements a message gives, each is mapped to a point of the auxiliary curve, the
homomorphism carries both to the signature curve, and a multiple of their sum is a point of it.

- **Squares**: `Fp2.isSquare_mul`, the product of two elements without roots has one;
- **The auxiliary curve**: of the two candidates for `x`, one has a right-hand side with a root
  (`isSquare_second`), so `mul_self_toAuxiliary` holds without a default;
- **The homomorphism**: `isogeny_equation`, an identity of polynomials with small coefficients once
  denominators are cleared;
- **Messages**: `exists_represents_hash`.
-/

namespace PairingSig

/-! ## Squares -/

instance : Finite Fp :=
  have : NeZero fieldOrder := ⟨fieldOrder_pos.ne'⟩
  .of_injective Fp.residue Fp.residue_injective

instance : Finite Fp2 :=
  .of_injective (fun x => (x.c0, x.c1)) fun _ _ h =>
    Fp2.ext (congrArg Prod.fst h) (congrArg Prod.snd h)

namespace Fp2

/-- The product of two elements without roots has one. -/
theorem isSquare_mul {x y : Fp2} (hx : ¬ IsSquare x) (hy : ¬ IsSquare y) : IsSquare (x * y) := by
  have := Fintype.ofFinite Fp2
  have hxy : x * y ≠ 0 :=
    mul_ne_zero (fun h => hx (h ▸ .zero)) fun h => hy (h ▸ .zero)
  rw [← quadraticChar_one_iff_isSquare hxy, map_mul,
    quadraticChar_neg_one_iff_not_isSquare.2 hx, quadraticChar_neg_one_iff_not_isSquare.2 hy]
  decide

theorem isSquare_of_sqrt? {x r : Fp2} (h : sqrt? x = some r) : IsSquare x :=
  ⟨r, (mul_self_of_sqrt? h).symm⟩

theorem not_isSquare_of_sqrt? {x : Fp2} (h : sqrt? x = none) : ¬ IsSquare x := by
  intro hx
  obtain ⟨r, hr⟩ := exists_sqrt? hx
  rw [h] at hr
  cases hr

end Fp2

namespace HashToCurve

/-! ## The auxiliary curve -/

theorem withSignOf_mul_self (u y : Fp2) : withSignOf u y * withSignOf u y = y * y := by
  unfold withSignOf
  split
  · rfl
  · exact neg_mul_neg y y

theorem not_isSquare_nonSquare : ¬ IsSquare nonSquare :=
  Fp2.not_isSquare_of_sqrt? (by decide +kernel)

/-- The right-hand side for the fixed candidate of the exceptional case has a root. -/
theorem isSquare_exceptional {t : Fp2} (h : t * t + t = 0) :
    IsSquare (auxiliaryRhs (firstCandidate t)) := by
  have hroot : (Fp2.sqrt? (auxiliaryRhs (auxiliaryB * (nonSquare * auxiliaryA)⁻¹))).isSome := by
    decide +kernel
  obtain ⟨r, hr⟩ := Option.isSome_iff_exists.1 hroot
  rw [firstCandidate, if_pos h]
  exact Fp2.isSquare_of_sqrt? hr

/-- In all other cases the first candidate solves an equation that is linear in it. -/
theorem firstCandidate_equation {t : Fp2} (h : t * t + t ≠ 0) :
    auxiliaryA * ((t * t + t) * firstCandidate t) = -auxiliaryB * (t * t + t + 1) := by
  have hA : auxiliaryA ≠ 0 := by decide
  rw [firstCandidate, if_neg h]
  generalize t * t + t = d at h
  calc auxiliaryA * (d * (-auxiliaryB * auxiliaryA⁻¹ * (1 + d⁻¹)))
      = -auxiliaryB * (auxiliaryA * auxiliaryA⁻¹) * (d + d * d⁻¹) := by ring
    _ = -auxiliaryB * (d + 1) := by rw [mul_inv_cancel₀ hA, mul_inv_cancel₀ h, mul_one]

/-- Then the right-hand sides for the two candidates differ by the cube of `t`. -/
theorem auxiliaryRhs_second {t : Fp2} (h : t * t + t ≠ 0) :
    auxiliaryRhs (t * firstCandidate t) = t * t * t * auxiliaryRhs (firstCandidate t) := by
  have hcandidate := firstCandidate_equation h
  rw [auxiliaryRhs, auxiliaryRhs]
  generalize firstCandidate t = x at hcandidate
  generalize auxiliaryA = a at hcandidate
  generalize auxiliaryB = b at hcandidate
  linear_combination (1 - t) * hcandidate

/-- **One of the two candidates has a root**, since `t` is the non-square times a square. -/
theorem isSquare_second {u : Fp2}
    (h : ¬ IsSquare (auxiliaryRhs (firstCandidate (nonSquare * (u * u))))) :
    IsSquare (auxiliaryRhs (nonSquare * (u * u) * firstCandidate (nonSquare * (u * u)))) := by
  rw [auxiliaryRhs_second (mt isSquare_exceptional h)]
  -- Up to a square, this is the product of the non-square and the first right-hand side.
  obtain ⟨r, hr⟩ := Fp2.isSquare_mul not_isSquare_nonSquare h
  generalize auxiliaryRhs (firstCandidate (nonSquare * (u * u))) = rhs at hr ⊢
  refine ⟨nonSquare * (u * u * u) * r, ?_⟩
  linear_combination nonSquare * nonSquare * (u * u * u) * (u * u * u) * hr

theorem toAuxiliary_of_some {u y : Fp2}
    (h : Fp2.sqrt? (auxiliaryRhs (firstCandidate (nonSquare * (u * u)))) = some y) :
    toAuxiliary u = (firstCandidate (nonSquare * (u * u)), withSignOf u y) := by
  unfold toAuxiliary
  dsimp only
  rw [h]

theorem toAuxiliary_of_none {u y : Fp2}
    (hfirst : Fp2.sqrt? (auxiliaryRhs (firstCandidate (nonSquare * (u * u)))) = none)
    (hsecond : Fp2.sqrt? (auxiliaryRhs (nonSquare * (u * u) *
      firstCandidate (nonSquare * (u * u)))) = some y) :
    toAuxiliary u =
      (nonSquare * (u * u) * firstCandidate (nonSquare * (u * u)), withSignOf u y) := by
  unfold toAuxiliary
  dsimp only
  rw [hfirst, hsecond]
  rfl

/-- **Field elements are mapped to the auxiliary curve.** -/
theorem mul_self_toAuxiliary (u : Fp2) :
    (toAuxiliary u).2 * (toAuxiliary u).2 = auxiliaryRhs (toAuxiliary u).1 := by
  cases hfirst : Fp2.sqrt? (auxiliaryRhs (firstCandidate (nonSquare * (u * u)))) with
  | some y =>
    rw [toAuxiliary_of_some hfirst, withSignOf_mul_self]
    exact Fp2.mul_self_of_sqrt? hfirst
  | none =>
    -- The default of the second root is never reached.
    obtain ⟨y, hy⟩ := Fp2.exists_sqrt? (isSquare_second (Fp2.not_isSquare_of_sqrt? hfirst))
    rw [toAuxiliary_of_none hfirst hy, withSignOf_mul_self]
    exact Fp2.mul_self_of_sqrt? hy

/-! ## The homomorphism -/

theorem foldl_evaluate_mul (k x : Fp2) (coefficients : List Fp2) (acc : Fp2) :
    (coefficients.map (k * ·)).foldl (fun acc c => acc * x + c) (k * acc) =
      k * coefficients.foldl (fun acc c => acc * x + c) acc := by
  induction coefficients generalizing acc with
  | nil => rfl
  | cons c rest ih =>
    rw [List.map_cons, List.foldl_cons, List.foldl_cons, ← ih]
    congr 1
    ring

/-- Multiplying the coefficients multiplies the values of a polynomial. -/
theorem evaluate_mul (k x : Fp2) (coefficients : List Fp2) :
    evaluate (coefficients.map (k * ·)) x = k * evaluate coefficients x := by
  have h := foldl_evaluate_mul k x coefficients 0
  rwa [mul_zero] at h

theorem evaluate_quadratic (a b c x : Fp2) : evaluate [a, b, c] x = (a * x + b) * x + c := by
  simp only [evaluate, List.foldl_cons, List.foldl_nil, zero_mul, zero_add]

theorem evaluate_cubic (a b c d x : Fp2) :
    evaluate [a, b, c, d] x = ((a * x + b) * x + c) * x + d := by
  simp only [evaluate, List.foldl_cons, List.foldl_nil, zero_mul, zero_add]

/-- The element `1 - u`, of whose powers all coefficients are multiples. -/
def oneSubU : Fp2 :=
  ⟨1, -1⟩

theorem evaluate_xDenominator (x : Fp2) :
    evaluate xDenominator x = (x + 6 * oneSubU) * (x + 6 * oneSubU) := by
  have h : xDenominator = [1, 12 * oneSubU, 36 * (oneSubU * oneSubU)] := by decide +kernel
  rw [h, evaluate_quadratic]
  ring

theorem evaluate_yDenominator (x : Fp2) :
    evaluate yDenominator x = (x + 6 * oneSubU) * (x + 6 * oneSubU) * (x + 6 * oneSubU) := by
  have h : yDenominator = [1, 18 * oneSubU, 108 * (oneSubU * oneSubU),
      216 * (oneSubU * oneSubU * oneSubU)] := by decide +kernel
  rw [h, evaluate_cubic]
  ring

theorem evaluate_xNumerator (x : Fp2) :
    9 * evaluate xNumerator x = x * x * x + 12 * oneSubU * (x * x) +
      12 * (oneSubU * oneSubU) * x - 152 * (oneSubU * oneSubU * oneSubU) := by
  have h : xNumerator.map (9 * ·) = [1, 12 * oneSubU, 12 * (oneSubU * oneSubU),
      -152 * (oneSubU * oneSubU * oneSubU)] := by decide +kernel
  rw [← evaluate_mul, h, evaluate_cubic]
  ring

theorem evaluate_yNumerator (x : Fp2) :
    -27 * evaluate yNumerator x = x * x * x + 18 * oneSubU * (x * x) +
      132 * (oneSubU * oneSubU) * x + 376 * (oneSubU * oneSubU * oneSubU) := by
  have h : yNumerator.map (-27 * ·) = [1, 18 * oneSubU, 132 * (oneSubU * oneSubU),
      376 * (oneSubU * oneSubU * oneSubU)] := by decide +kernel
  rw [← evaluate_mul, h, evaluate_cubic]
  ring

/-- **The equation of the signature curve** holds of the quotients of the polynomials: the
denominators are the square and the cube of one linear polynomial. -/
theorem isogeny_equation (x : Fp2) :
    let d := x + 6 * oneSubU
    evaluate yNumerator x * evaluate yNumerator x * auxiliaryRhs x =
      evaluate xNumerator x * evaluate xNumerator x * evaluate xNumerator x +
        CurveConstant.b * (d * d * d * (d * d * d)) := by
  -- The constants of both curves are multiples of powers of one element.
  have hA : auxiliaryA = -120 * (oneSubU * oneSubU) := by decide +kernel
  have hB : auxiliaryB = -506 * (oneSubU * oneSubU * oneSubU) := by decide +kernel
  have hb : (CurveConstant.b : Fp2) = -2 * (oneSubU * oneSubU * oneSubU) := by decide +kernel
  have h729 : (729 : Fp2) ≠ 0 := by decide +kernel
  have hX := evaluate_xNumerator x
  have hY := evaluate_yNumerator x
  dsimp only
  rw [auxiliaryRhs, hA, hB, hb]
  -- The square of `-27` and the cube of `9`, which clear the denominators on the two sides.
  apply mul_left_cancel₀ h729
  -- What is left is an identity of polynomials.
  generalize evaluate xNumerator x = X at hX ⊢
  generalize evaluate yNumerator x = Y at hY ⊢
  generalize oneSubU = s at hX hY ⊢
  calc 729 * (Y * Y * ((x * x + -120 * (s * s)) * x + -506 * (s * s * s)))
      = (-27 * Y) * (-27 * Y) * ((x * x + -120 * (s * s)) * x + -506 * (s * s * s)) := by ring
    _ = (9 * X) * (9 * X) * (9 * X) +
          729 * (-2 * (s * s * s) * ((x + 6 * s) * (x + 6 * s) * (x + 6 * s) *
            ((x + 6 * s) * (x + 6 * s) * (x + 6 * s)))) := by
        rw [hX, hY]
        ring
    _ = _ := by ring

/-- **The homomorphism leads from curve to curve.** -/
theorem exists_represents_isogeny {x y : Fp2} (h : y * y = auxiliaryRhs x) :
    ∃ A : (curve Fp2).Point, (isogeny x y).Represents A := by
  have hX := evaluate_xDenominator x
  have hY := evaluate_yDenominator x
  have hequation := isogeny_equation x
  rw [← h] at hequation
  unfold isogeny
  dsimp only
  rw [hX, hY]
  generalize evaluate xNumerator x = X at hequation ⊢
  generalize evaluate yNumerator x = Y at hequation ⊢
  dsimp only at hequation
  generalize x + 6 * oneSubU = d at hequation ⊢
  -- Where a denominator vanishes, the image is the identity.
  split
  · exact ⟨0, Point.represents_normal 0⟩
  · rename_i hz
    apply Point.exists_represents hz
    dsimp only
    linear_combination d * d * d * (d * d * d) * (d * d * d) * hequation

theorem exists_represents_mapToCurve (u : Fp2) :
    ∃ A : (curve Fp2).Point, (mapToCurve u).Represents A := by
  have h := mul_self_toAuxiliary u
  unfold mapToCurve
  generalize toAuxiliary u = point at h ⊢
  obtain ⟨x, y⟩ := point
  exact exists_represents_isogeny h

/-- **Every message is hashed to a triple of a point of the signature curve.** -/
theorem exists_represents_hash (message : Bytes) :
    ∃ A : (curve Fp2).Point, (hash message).Represents A := by
  obtain ⟨A, hA⟩ := exists_represents_mapToCurve (fieldElements message).1
  obtain ⟨B, hB⟩ := exists_represents_mapToCurve (fieldElements message).2
  exact ⟨_, (hA.add hB).multiple 636 cofactor⟩

end HashToCurve

end PairingSig
