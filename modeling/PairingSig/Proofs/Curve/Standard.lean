import PairingSig.Curve.Standard
import PairingSig.Proofs.Curve.Compressed
import PairingSig.Proofs.Field.Extension

/-!
# The standard curves

What the theory of curves and of compressed points asks of the two fields.

- **Points of order two**: there are none. Such a point would have `y = 0`, so `-b` would be a cube.
  Over the base field one power of `-4` tells that it is not; over the extension the norm of a root
  of `x³ = -4(1 + u)` would lead to a root of `x³ = -4`.
- **Coordinates**: an element of the base field takes 48 bytes, the top three bits of which are
  free; one of the extension takes 96 bytes, with `c1` before `c0`.
-/

namespace PairingSig

/-! ## Points of order two -/

namespace Fp

theorem cube_ne_neg_four (x : Fp) : x * x * x ≠ -ofNat 4 :=
  cube_ne_of_power_ne_one (by decide) (by decide +kernel) x

instance : NoOrderTwo Fp where
  two_ne_zero := by decide
  cube_add_ne_zero x h := cube_ne_neg_four x (eq_neg_of_add_eq_zero_left h)

end Fp

namespace Fp2

/-- The half of a root of `x³ = 32` is a root of `x³ = 4`. -/
theorem cube_neg_half {n : Fp} (h : n * n * n = 32) : -half n * -half n * -half n = -4 := by
  have hn := half_add_half n
  generalize half n = m at hn ⊢
  subst hn
  have h8 : (8 : Fp) ≠ 0 := by decide
  apply mul_left_cancel₀ h8
  linear_combination -h

instance : NoOrderTwo Fp2 where
  two_ne_zero := by decide
  cube_add_ne_zero x h := by
    -- The norm is multiplicative, so that of a root is a root of the norm.
    have hnorm := congrArg norm (eq_neg_of_add_eq_zero_left h)
    rw [norm_mul, norm_mul] at hnorm
    exact Fp.cube_ne_neg_four _ (cube_neg_half (hnorm.trans (by decide)))

end Fp2

/-! ## Coordinates -/

open Compressed

namespace Fp

instance : CoordinateForm Fp where
  Writes bs x := bs.length = 48 ∧ Bytes.toNat bs % 2 ^ 381 = x.val
  Larger y := fieldOrder < 2 * y.val

theorem encode_eq_iff {x : Fp} {bs : Bytes} :
    encode x = bs ↔ bs.length = 48 ∧ Bytes.toNat bs = x.val := by
  constructor
  · rintro rfl
    exact ⟨length_encode x, Bytes.toNat_ofNat (Nat.lt_trans x.isLt fieldOrder_lt)⟩
  · rintro ⟨hlength, hnum⟩
    rw [encode, ← hnum, Bytes.ofNat_toNat hlength]

/-- Taking the flags off leaves the low bits of the number. -/
theorem toNat_unflagged_cons {top : UInt8} {rest : Bytes} (h : rest.length = 47) :
    Bytes.toNat (unflagged top :: rest) = Bytes.toNat (top :: rest) % 2 ^ 381 := by
  have hlt := Bytes.toNat_lt rest
  have hpow : 2 ^ 381 = Bytes.bound 47 * 32 := by decide +kernel
  rw [Bytes.toNat_cons, Bytes.toNat_cons, h, toNat_unflagged, hpow, Nat.mod_mul]
  rw [h] at hlt
  -- What is left of the first byte are its five lowest bits, above a number below `B`.
  generalize Bytes.bound 47 = B at hlt ⊢
  have hrest : (top.toNat * B + Bytes.toNat rest) % B = Bytes.toNat rest := by
    rw [Nat.mul_add_mod_self_right, Nat.mod_eq_of_lt hlt]
  have htop : (top.toNat * B + Bytes.toNat rest) / B = top.toNat := by
    rw [Nat.add_comm, Nat.add_mul_div_right _ _ (Nat.zero_lt_of_lt hlt), Nat.div_eq_of_lt hlt,
      Nat.zero_add]
  rw [hrest, htop, Nat.mul_comm, Nat.add_comm]

theorem head_encode_lt {x : Fp} {top : UInt8} {rest : Bytes} (h : encode x = top :: rest) :
    top.toNat < 32 := by
  obtain ⟨hlength, hnum⟩ := encode_eq_iff.1 h
  have hrest : rest.length = 47 := Nat.succ.inj hlength
  have hlt : top.toNat * Bytes.bound 47 < 32 * Bytes.bound 47 := by
    have hle : fieldOrder ≤ 32 * Bytes.bound 47 := by decide +kernel
    have hx := x.isLt
    rw [← hnum, Bytes.toNat_cons, hrest] at hx
    omega
  exact Nat.lt_of_mul_lt_mul_right hlt

theorem isLarger_iff {y : Fp} : isLarger y = true ↔ fieldOrder < 2 * y.val := by
  rw [isLarger, decide_eq_true_iff]
  obtain rfl | hy := eq_or_ne y 0
  · decide
  · have hlt := y.isLt
    rw [val_neg hy]
    omega

theorem writes_cons_iff {top : UInt8} {rest : Bytes} {x : Fp} :
    CoordinateForm.Writes (top :: rest) x ↔ encode x = unflagged top :: rest := by
  rw [encode_eq_iff]
  refine and_congr_right fun hlength => ?_
  rw [toNat_unflagged_cons (Nat.succ.inj hlength)]

instance : LawfulCoordinate Fp where
  width_pos := by decide
  length_encode := length_encode
  encode_zero := by decide +kernel
  head_lt _ _ _ := head_encode_lt
  decode?_eq_some_iff bs x := ⟨encode_of_decode?, fun h => h ▸ decode?_encode x⟩
  not_writes_nil x h := absurd h.1 (by decide)
  writes_cons_iff _ _ _ := writes_cons_iff
  isLarger_iff _ := isLarger_iff
  isLarger_neg _ := isLarger_neg
  mul_self_of_sqrt? _ _ := mul_self_of_sqrt?
  exists_sqrt? _ := exists_sqrt?

end Fp

namespace Fp2

instance : CoordinateForm Fp2 where
  Writes bs x := bs.length = 96 ∧ Bytes.toNat (bs.take 48) % 2 ^ 381 = x.c1.val ∧
    Bytes.toNat (bs.drop 48) = x.c0.val
  Larger y := fieldOrder < 2 * y.c1.val ∨ y.c1 = 0 ∧ fieldOrder < 2 * y.c0.val

theorem encode_eq_iff {x : Fp2} {bs : Bytes} :
    encode x = bs ↔ Fp.encode x.c1 = bs.take 48 ∧ Fp.encode x.c0 = bs.drop 48 := by
  constructor
  · rintro rfl
    rw [encode, List.take_left' (Fp.length_encode x.c1), List.drop_left' (Fp.length_encode x.c1)]
    exact ⟨rfl, rfl⟩
  · rintro ⟨h1, h0⟩
    rw [encode, h1, h0, List.take_append_drop]

theorem head_encode_lt {x : Fp2} {top : UInt8} {rest : Bytes} (h : encode x = top :: rest) :
    top.toNat < 32 :=
  Fp.head_encode_lt (encode_eq_iff.1 h).1

theorem isLarger_iff {y : Fp2} :
    isLarger y = true ↔ fieldOrder < 2 * y.c1.val ∨ y.c1 = 0 ∧ fieldOrder < 2 * y.c0.val := by
  rw [isLarger]
  split
  · -- `c1` is zero, so it has no say, and `c0` decides.
    rename_i h
    have hval : y.c1.val = 0 := congrArg Fp.val h
    rw [Fp.isLarger_iff, hval]
    refine ⟨fun h0 => .inr ⟨h, h0⟩, ?_⟩
    rintro (h1 | ⟨-, h0⟩)
    · exact absurd h1 (by decide)
    · exact h0
  · rename_i h
    rw [Fp.isLarger_iff]
    exact ⟨.inl, fun h1 => h1.resolve_right fun h0 => h h0.1⟩

theorem writes_cons_iff {top : UInt8} {rest : Bytes} {x : Fp2} :
    CoordinateForm.Writes (top :: rest) x ↔ encode x = unflagged top :: rest := by
  rw [encode_eq_iff, List.take_succ_cons, List.drop_succ_cons, ← Fp.writes_cons_iff,
    Fp.encode_eq_iff]
  show (rest.length + 1 = 96 ∧ Bytes.toNat (top :: rest.take 47) % 2 ^ 381 = x.c1.val ∧
      Bytes.toNat (rest.drop 47) = x.c0.val) ↔
    ((rest.take 47).length + 1 = 48 ∧ Bytes.toNat (top :: rest.take 47) % 2 ^ 381 = x.c1.val) ∧
      (rest.drop 47).length = 48 ∧ Bytes.toNat (rest.drop 47) = x.c0.val
  -- The one length splits into those of the halves.
  have hlength : rest.length + 1 = 96 ↔
      (rest.take 47).length + 1 = 48 ∧ (rest.drop 47).length = 48 := by
    rw [List.length_take, List.length_drop]
    omega
  rw [hlength]
  tauto

instance : LawfulCoordinate Fp2 where
  width_pos := by decide
  length_encode := length_encode
  encode_zero := by decide +kernel
  head_lt _ _ _ := head_encode_lt
  decode?_eq_some_iff bs x := ⟨encode_of_decode?, fun h => h ▸ decode?_encode x⟩
  not_writes_nil x h := absurd h.1 (by decide)
  writes_cons_iff _ _ _ := writes_cons_iff
  isLarger_iff _ := isLarger_iff
  isLarger_neg _ := isLarger_neg
  mul_self_of_sqrt? _ _ := mul_self_of_sqrt?
  exists_sqrt? _ := exists_sqrt?

end Fp2

end PairingSig
