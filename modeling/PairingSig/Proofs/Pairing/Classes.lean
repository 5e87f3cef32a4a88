import Mathlib.Algebra.Algebra.Defs
import Mathlib.Data.List.Forall2
import PairingSig.Bls12381
import PairingSig.Proofs.Curve.Group
import PairingSig.Proofs.Field.Tower

/-!
# Classes of loop values

The Miller loop walks through triples, not through points: for other triples of the same points its
lines and its value come out with other factors. All these factors lie in the quadratic extension,
and the final exponentiation removes them, since such a factor is its own conjugate. So a product of
pairings is decided by the points alone.

- **Factors**: elements of the quadratic extension scale those of the sextic and of the dodecic one;
  inverses are scaled by the inverse factor (`Fp6.smul_inverse`, `Fp12.smul_inverse`);
- **Classes**: `SameClass`, equality up to a factor; `SameClass.finalExponentiation_eq`;
- **The loop**: `Walk.Alike` is kept by every turn, so `miller_scale`;
- **Products**: `productIsOne_congr`, `pairingsBalance_congr`.
-/

namespace PairingSig

/-! ## Factors -/

theorem Fp2.scale_eq (k : Fp) (x : Fp2) : Fp2.scale k x = Fp2.ofBase k * x := by
  ext1
  · show k * x.c0 = k * x.c0 - 0 * x.c1
    rw [zero_mul, sub_zero]
  · show k * x.c1 = k * x.c1 + 0 * x.c0
    rw [zero_mul, add_zero]

theorem Fp2.ofBase_mul (k l : Fp) : Fp2.ofBase (k * l) = Fp2.ofBase k * Fp2.ofBase l := by
  rw [← Fp2.scale_eq]
  exact Fp2.ext rfl (mul_zero k).symm

theorem Fp2.ofBase_ne_zero {k : Fp} (hk : k ≠ 0) : Fp2.ofBase k ≠ 0 :=
  fun h => hk (congrArg Fp2.c0 h)

namespace Fp6

instance : SMul Fp2 Fp6 :=
  ⟨fun c x => ⟨c * x.c0, c * x.c1, c * x.c2⟩⟩

@[simp] theorem c0_smul (c : Fp2) (x : Fp6) : (c • x).c0 = c * x.c0 := rfl

@[simp] theorem c1_smul (c : Fp2) (x : Fp6) : (c • x).c1 = c * x.c1 := rfl

@[simp] theorem c2_smul (c : Fp2) (x : Fp6) : (c • x).c2 = c * x.c2 := rfl

instance : Module Fp2 Fp6 where
  one_smul x := by ext1 <;> simp only [c0_smul, c1_smul, c2_smul, one_mul]
  mul_smul c d x := by ext1 <;> simp only [c0_smul, c1_smul, c2_smul, mul_assoc]
  smul_zero c := by
    ext1 <;> simp only [c0_smul, c1_smul, c2_smul, c0_zero, c1_zero, c2_zero, mul_zero]
  smul_add c x y := by
    ext1 <;> simp only [c0_smul, c1_smul, c2_smul, c0_add, c1_add, c2_add, mul_add]
  add_smul c d x := by
    ext1 <;> simp only [c0_smul, c1_smul, c2_smul, c0_add, c1_add, c2_add, add_mul]
  zero_smul x := by
    ext1 <;> simp only [c0_smul, c1_smul, c2_smul, c0_zero, c1_zero, c2_zero, zero_mul]

instance : IsScalarTower Fp2 Fp6 Fp6 where
  smul_assoc c x y := by
    ext1 <;> simp only [smul_eq_mul, c0_smul, c1_smul, c2_smul, c0_mul, c1_mul, c2_mul] <;> ring

instance : SMulCommClass Fp2 Fp6 Fp6 where
  smul_comm c x y := by
    ext1 <;> simp only [smul_eq_mul, c0_smul, c1_smul, c2_smul, c0_mul, c1_mul, c2_mul] <;> ring

/-- The product of the conjugates of an element. -/
def cofactor (x : Fp6) : Fp6 :=
  ⟨x.c0 * x.c0 - vCubed * (x.c1 * x.c2), vCubed * (x.c2 * x.c2) - x.c0 * x.c1,
    x.c1 * x.c1 - x.c0 * x.c2⟩

/-- The product of an element and its conjugates, which lies in the quadratic extension. -/
def norm (x : Fp6) : Fp2 :=
  x.c0 * (cofactor x).c0 + vCubed * (x.c2 * (cofactor x).c1 + x.c1 * (cofactor x).c2)

theorem inv_eq (x : Fp6) : x⁻¹ = (norm x)⁻¹ • cofactor x := by
  show inverse x = _
  simp only [inverse, mulByXi_eq]
  ext1 <;> simp only [c0_smul, c1_smul, c2_smul, norm, cofactor, mul_comm]

theorem cofactor_smul (c : Fp2) (x : Fp6) : cofactor (c • x) = (c * c) • cofactor x := by
  ext1 <;> simp only [cofactor, c0_smul, c1_smul, c2_smul] <;> ring

theorem norm_smul (c : Fp2) (x : Fp6) : norm (c • x) = c * c * c * norm x := by
  simp only [norm, cofactor_smul, c0_smul, c1_smul, c2_smul]
  ring

theorem smul_inverse {c : Fp2} (hc : c ≠ 0) (x : Fp6) : (c • x)⁻¹ = c⁻¹ • x⁻¹ := by
  -- The norm takes the factor three times and the cofactor takes it twice.
  have hfactor : (c * c * c * norm x)⁻¹ * (c * c) = c⁻¹ * (norm x)⁻¹ := by
    field_simp
  rw [inv_eq, inv_eq, cofactor_smul, norm_smul, smul_smul, smul_smul, hfactor]

end Fp6

namespace Fp12

instance : SMul Fp2 Fp12 :=
  ⟨fun c x => ⟨c • x.c0, c • x.c1⟩⟩

@[simp] theorem c0_smul (c : Fp2) (x : Fp12) : (c • x).c0 = c • x.c0 := rfl

@[simp] theorem c1_smul (c : Fp2) (x : Fp12) : (c • x).c1 = c • x.c1 := rfl

instance : MulAction Fp2 Fp12 where
  one_smul x := by ext1 <;> simp only [c0_smul, c1_smul, one_smul]
  mul_smul c d x := by ext1 <;> simp only [c0_smul, c1_smul, mul_smul]

instance : IsScalarTower Fp2 Fp12 Fp12 where
  smul_assoc c x y := by
    ext1 <;> simp only [smul_eq_mul, c0_smul, c1_smul, c0_mul, c1_mul, smul_mul_assoc,
      mul_smul_comm, smul_add]

instance : SMulCommClass Fp2 Fp12 Fp12 where
  smul_comm c x y := by
    ext1 <;> simp only [smul_eq_mul, c0_smul, c1_smul, c0_mul, c1_mul, mul_smul_comm, smul_add]

/-- A factor is its own conjugate. -/
theorem conjugate_smul (c : Fp2) (x : Fp12) : (c • x).conjugate = c • x.conjugate := by
  ext1 <;> simp only [conjugate, c0_smul, c1_smul, smul_neg]

/-- The product of an element and its conjugate, which lies in the sextic extension. -/
def norm (x : Fp12) : Fp6 :=
  x.c0 * x.c0 - wSquared * (x.c1 * x.c1)

theorem norm_smul (c : Fp2) (x : Fp12) : norm (c • x) = (c * c) • norm x := by
  simp only [norm, c0_smul, c1_smul, smul_mul_assoc, mul_smul_comm, smul_smul, smul_sub]

theorem inv_eq (x : Fp12) : x⁻¹ = ⟨x.c0 * (norm x)⁻¹, -(x.c1 * (norm x)⁻¹)⟩ := by
  show inverse x = _
  simp only [inverse, mulByV_eq, norm]

theorem smul_inverse {c : Fp2} (hc : c ≠ 0) (x : Fp12) : (c • x)⁻¹ = c⁻¹ • x⁻¹ := by
  -- Here the norm takes it twice, and the conjugate once.
  have hfactor : (c * c)⁻¹ * c = c⁻¹ := by field_simp
  rw [inv_eq, inv_eq, norm_smul, Fp6.smul_inverse (mul_ne_zero hc hc)]
  ext1 <;>
    simp only [c0_smul, c1_smul, smul_mul_assoc, mul_smul_comm, smul_smul, smul_neg, hfactor]

end Fp12

namespace Pairing

/-! ## Classes -/

/-- Two elements are equal up to a factor of the quadratic extension. -/
def SameClass (x y : Fp12) : Prop :=
  ∃ c : Fp2, c ≠ 0 ∧ y = c • x

variable {x y x' y' : Fp12}

theorem SameClass.refl (x : Fp12) : SameClass x x :=
  ⟨1, one_ne_zero, (one_smul Fp2 x).symm⟩

theorem SameClass.mul (h : SameClass x y) (h' : SameClass x' y') : SameClass (x * x') (y * y') := by
  obtain ⟨c, hc, rfl⟩ := h
  obtain ⟨d, hd, rfl⟩ := h'
  exact ⟨c * d, mul_ne_zero hc hd, smul_mul_smul_comm c x d x'⟩

theorem SameClass.conjugate (h : SameClass x y) : SameClass x.conjugate y.conjugate := by
  obtain ⟨c, hc, rfl⟩ := h
  exact ⟨c, hc, Fp12.conjugate_smul c x⟩

/-- The quotient of the conjugate of an element by the element is the same for all its multiples. -/
theorem SameClass.easyPart_eq (h : SameClass x y) : easyPart y = easyPart x := by
  obtain ⟨c, hc, rfl⟩ := h
  have hquotient : (c • x).conjugate * (c • x)⁻¹ = x.conjugate * x⁻¹ := by
    rw [Fp12.conjugate_smul, Fp12.smul_inverse hc, smul_mul_smul_comm, mul_inv_cancel₀ hc, one_smul]
  rw [easyPart, easyPart, hquotient]

/-- **The final exponentiation removes the factor.** -/
theorem SameClass.finalExponentiation_eq (h : SameClass x y) :
    finalExponentiation y = finalExponentiation x := by
  rw [finalExponentiation, finalExponentiation, h.easyPart_eq]

/-! ## The loop -/

/-- A line for other triples, and with its slope expanded, differs by a factor. -/
theorem line_scale (m rise run l : Fp2) (T : Point Fp2) (k : Fp) (P : Point Fp) :
    line (m * rise) (m * run) (T.scale l) (P.scale k) =
      (Fp2.ofBase k * (m * l)) • line rise run T P := by
  ext1 <;> ext1 <;>
    simp only [line, Point.scale, Fp2.scale_eq, Fp2.ofBase_mul, Fp12.c0_smul, Fp12.c1_smul,
      Fp6.c0_smul, Fp6.c1_smul, Fp6.c2_smul] <;>
    ring

/-- Scaling a triple expands the slope of its tangent. -/
theorem tangent_scale (l : Fp2) (T : Point Fp2) (k : Fp) (P : Point Fp) :
    tangent (T.scale l) (P.scale k) = (Fp2.ofBase k * (l * l * l)) • tangent T P := by
  -- Rise and run both take the factor twice, and the line takes it once more.
  have hrise : Point.triple (l * T.x * (l * T.x)) = l * l * Point.triple (T.x * T.x) := by
    rw [Point.triple, Point.triple]
    ring
  have hrun : l * T.y * (l * T.z) + l * T.y * (l * T.z) = l * l * (T.y * T.z + T.y * T.z) := by
    ring
  rw [tangent, tangent, ← line_scale, ← hrise, ← hrun]
  rfl

theorem chord_scale (m l : Fp2) (T Q : Point Fp2) (k : Fp) (P : Point Fp) :
    chord (T.scale m) (Q.scale l) (P.scale k) = (Fp2.ofBase k * (m * l * l)) • chord T Q P := by
  have hrise : m * T.y * (l * Q.z) - l * Q.y * (m * T.z) = m * l * (T.y * Q.z - Q.y * T.z) := by
    ring
  have hrun : m * T.x * (l * Q.z) - l * Q.x * (m * T.z) = m * l * (T.x * Q.z - Q.x * T.z) := by
    ring
  rw [chord, chord, ← line_scale, ← hrise, ← hrun]
  rfl

/-- Two walks have reached the same point, by whatever triples, and values of the same class. -/
structure Walk.Alike (s s' : Walk) : Prop where
  reached : ∃ m, m ≠ 0 ∧ s'.reached = s.reached.scale m
  value : SameClass s.value s'.value

section

variable {k : Fp} {l : Fp2} (hk : k ≠ 0) (hl : l ≠ 0) (P : Point Fp) (Q : Point Fp2)

include hk hl

/-- **A turn keeps walks alike**, also if they go after other triples of the two points. -/
theorem Walk.Alike.turn {s s' : Walk} (h : s.Alike s') (bit : Bool) :
    (s.turn Q P bit).Alike (s'.turn (Q.scale l) (P.scale k) bit) := by
  obtain ⟨⟨m, hm, hreached⟩, hvalue⟩ := h
  have hk' := Fp2.ofBase_ne_zero hk
  -- The doubling is made in either case.
  have htwice : s'.reached.double = s.reached.double.scale (m * m * (m * m)) := by
    rw [hreached, Point.double_scale]
  have htangent : SameClass (tangent s.reached P) (tangent s'.reached (P.scale k)) :=
    ⟨_, mul_ne_zero hk' (mul_ne_zero (mul_ne_zero hm hm) hm), by rw [hreached, tangent_scale]⟩
  have hmm : m * m * (m * m) ≠ 0 := mul_ne_zero (mul_ne_zero hm hm) (mul_ne_zero hm hm)
  have hsquare := (hvalue.mul hvalue).mul htangent
  cases bit with
  | false => exact ⟨⟨_, hmm, htwice⟩, hsquare⟩
  | true =>
    -- The chord goes from the double that both walks have reached.
    have hchord : SameClass (chord s.reached.double Q P)
        (chord s'.reached.double (Q.scale l) (P.scale k)) :=
      ⟨_, mul_ne_zero hk' (mul_ne_zero (mul_ne_zero hmm hl) hl), by rw [htwice, chord_scale]⟩
    refine ⟨⟨_, mul_ne_zero (mul_ne_zero hmm hl) (mul_ne_zero hmm hl), ?_⟩, hsquare.mul hchord⟩
    show s'.reached.double.add (Q.scale l) = _
    rw [htwice, Point.add_scale]
    rfl

theorem Walk.Alike.foldl {s s' : Walk} (h : s.Alike s') (bits : List Bool) :
    (bits.foldl (Walk.turn Q P) s).Alike (bits.foldl (Walk.turn (Q.scale l) (P.scale k)) s') := by
  induction bits generalizing s s' with
  | nil => exact h
  | cons bit rest ih => exact ih (h.turn hk hl P Q bit)

/-- **Loop values of the same two points are of one class.** -/
theorem miller_scale : SameClass (miller P Q) (miller (P.scale k) (Q.scale l)) := by
  rw [miller, miller, Point.isIdentity_scale hk, Point.isIdentity_scale hl]
  -- Every triple of the identity is told apart, and the loop is left out for all of them.
  split
  · exact .refl 1
  · have hstart : Walk.Alike ⟨Q, 1⟩ ⟨Q.scale l, 1⟩ := ⟨⟨l, hl, rfl⟩, .refl 1⟩
    exact (hstart.foldl hk hl P Q loopBits).value.conjugate

end

/-! ## Products -/

/-- Two pairs of triples stand for the same two points. -/
structure SamePair (pq pq' : Point Fp × Point Fp2) : Prop where
  fst : pq.1.Proportional pq'.1
  snd : pq.2.Proportional pq'.2

variable {pairs pairs' : List (Point Fp × Point Fp2)}

theorem SamePair.miller {pq pq' : Point Fp × Point Fp2} (h : SamePair pq pq') :
    SameClass (miller pq.1 pq.2) (miller pq'.1 pq'.2) := by
  obtain ⟨⟨k, hk, hfst⟩, l, hl, hsnd⟩ := h
  rw [hfst, hsnd]
  exact miller_scale hk hl pq.1 pq.2

theorem productIsOne_congr (h : List.Forall₂ SamePair pairs pairs') :
    productIsOne pairs = productIsOne pairs' := by
  -- The products collected so far are of one class.
  have hproduct : SameClass (pairs.foldl (fun acc pq => acc * Pairing.miller pq.1 pq.2) 1)
      (pairs'.foldl (fun acc pq => acc * Pairing.miller pq.1 pq.2) 1) :=
    List.rel_foldl (fun _ _ hacc _ _ hpq => hacc.mul hpq.miller) (.refl 1) h
  rw [productIsOne, productIsOne, hproduct.finalExponentiation_eq]

end Pairing

/-- **The test of a product of pairings sees points only**, not the triples that stand for them. -/
theorem pairingsBalance_congr {s s' : Point Fp2} {pairs pairs' : List (Point Fp × Point Fp2)}
    (hs : s.Proportional s') (h : List.Forall₂ Pairing.SamePair pairs pairs') :
    pairingsBalance s pairs = pairingsBalance s' pairs' :=
  Pairing.productIsOne_congr (.cons ⟨.refl _, hs⟩ h)

end PairingSig
