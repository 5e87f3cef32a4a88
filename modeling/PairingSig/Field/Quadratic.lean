import PairingSig.Field.Prime

/-!
# The quadratic extension

Elements `c0 + c1·u` with `u² = -1`, over the base field. The signature curve is defined over it.
-/

namespace PairingSig

/-- The element `c0 + c1·u`. -/
@[ext] structure Fp2 where
  c0 : Fp
  c1 : Fp
  deriving DecidableEq, Repr

namespace Fp2

instance : Zero Fp2 := ⟨⟨0, 0⟩⟩

instance : One Fp2 := ⟨⟨1, 0⟩⟩

instance : Add Fp2 := ⟨fun x y => ⟨x.c0 + y.c0, x.c1 + y.c1⟩⟩

instance : Sub Fp2 := ⟨fun x y => ⟨x.c0 - y.c0, x.c1 - y.c1⟩⟩

instance : Neg Fp2 := ⟨fun x => ⟨-x.c0, -x.c1⟩⟩

instance : Mul Fp2 :=
  ⟨fun x y => ⟨x.c0 * y.c0 - x.c1 * y.c1, x.c0 * y.c1 + x.c1 * y.c0⟩⟩

def ofBase (x : Fp) : Fp2 :=
  ⟨x, 0⟩

/-- Multiplies both coordinates by an element of the base field. -/
def scale (k : Fp) (x : Fp2) : Fp2 :=
  ⟨k * x.c0, k * x.c1⟩

/-- Replaces `u` by `-u`. -/
def conjugate (x : Fp2) : Fp2 :=
  ⟨x.c0, -x.c1⟩

/-- The product of an element and its conjugate, which lies in the base field. -/
def norm (x : Fp2) : Fp :=
  x.c0 * x.c0 + x.c1 * x.c1

/-- The inverse of a non-zero element; zero stays zero. -/
def inverse (x : Fp2) : Fp2 :=
  scale (norm x)⁻¹ (conjugate x)

instance : Inv Fp2 := ⟨inverse⟩

/-- Multiplies by `1 + u`, the element whose roots build the larger extensions. -/
def mulByXi (x : Fp2) : Fp2 :=
  ⟨x.c0 - x.c1, x.c0 + x.c1⟩

/-! ## Square roots -/

def half (x : Fp) : Fp :=
  x * Fp.ofNat ((fieldOrder + 1) / 2)

/-- The root `c + (b / 2c)·u` of `a + b·u`, for a root `c` of the given square. -/
def rootFrom? (b square : Fp) : Option Fp2 :=
  match Fp.sqrt? square with
  | none => none
  | some c => some ⟨c, b * (c + c)⁻¹⟩

/--
A square root, if there is one. An element of the base field has a root there or a multiple of
`u`; any other element `a + b·u` is the square of `c + d·u` where `c²` is the half of `a + s` or of
`a - s` and `s` is a root of the norm.
-/
def sqrt? (x : Fp2) : Option Fp2 :=
  if x.c1 = 0 then
    match Fp.sqrt? x.c0 with
    | some c => some ⟨c, 0⟩
    | none => (Fp.sqrt? (-x.c0)).map fun d => ⟨0, d⟩
  else
    match Fp.sqrt? (norm x) with
    | none => none
    | some s =>
      match rootFrom? x.c1 (half (x.c0 + s)) with
      | some r => some r
      -- Exactly one of the two halves is a square.
      | none => rootFrom? x.c1 (half (x.c0 - s))

theorem rootFrom?_eq (b square : Fp) :
    rootFrom? b square = (Fp.sqrt? square).map fun c => ⟨c, b * (c + c)⁻¹⟩ := by
  rw [rootFrom?]
  cases Fp.sqrt? square <;> rfl

/-- In the base field, or as a multiple of `u`. -/
theorem sqrt?_of_c1_eq_zero {x : Fp2} (h : x.c1 = 0) :
    sqrt? x =
      ((Fp.sqrt? x.c0).map fun c => ⟨c, 0⟩).or ((Fp.sqrt? (-x.c0)).map fun d => ⟨0, d⟩) := by
  rw [sqrt?, if_pos h]
  cases Fp.sqrt? x.c0 <;> rfl

theorem match_eq_or (o o' : Option Fp2) :
    (match o with | some r => some r | none => o') = o.or o' := by
  cases o <;> rfl

theorem match_eq_bind (o : Option Fp) (f : Fp → Option Fp2) :
    (match o with | none => none | some s => f s) = o.bind f := by
  cases o <;> rfl

/-- From a root of the norm. -/
theorem sqrt?_of_c1_ne_zero {x : Fp2} (h : x.c1 ≠ 0) :
    sqrt? x =
      (Fp.sqrt? (norm x)).bind fun s =>
        (rootFrom? x.c1 (half (x.c0 + s))).or (rootFrom? x.c1 (half (x.c0 - s))) := by
  rw [sqrt?, if_neg h]
  simp only [match_eq_or, match_eq_bind]

/-- Whether an element is the larger one of itself and its negative, by `c1` and then by `c0`. -/
def isLarger (x : Fp2) : Bool :=
  if x.c1 = 0 then Fp.isLarger x.c0 else Fp.isLarger x.c1

/-- The sign of an element: the parity of its first coordinate that is not zero. -/
def isOdd (x : Fp2) : Bool :=
  if x.c0 = 0 then Fp.isOdd x.c1 else Fp.isOdd x.c0

/-! ## Writing -/

/-- The coordinates in 96 bytes, `c1` before `c0`. -/
def encode (x : Fp2) : Bytes :=
  Fp.encode x.c1 ++ Fp.encode x.c0

def decode? (bs : Bytes) : Option Fp2 :=
  match Fp.decode? (bs.take 48), Fp.decode? (bs.drop 48) with
  | some c1, some c0 => some ⟨c0, c1⟩
  | _, _ => none

@[simp] theorem length_encode (x : Fp2) : (encode x).length = 96 := by
  simp [encode]

theorem decode?_encode (x : Fp2) : decode? (encode x) = some x := by
  have ht : (encode x).take 48 = Fp.encode x.c1 := by
    rw [encode, List.take_left' (Fp.length_encode x.c1)]
  have hd : (encode x).drop 48 = Fp.encode x.c0 := by
    rw [encode, List.drop_left' (Fp.length_encode x.c1)]
  rw [decode?, ht, hd, Fp.decode?_encode, Fp.decode?_encode]

theorem encode_of_decode? {bs : Bytes} {x : Fp2} (h : decode? bs = some x) : encode x = bs := by
  unfold decode? at h
  split at h
  · rename_i c1 c0 h1 h0
    cases h
    rw [encode, Fp.encode_of_decode? h1, Fp.encode_of_decode? h0, List.take_append_drop]
  · cases h

end Fp2

end PairingSig
