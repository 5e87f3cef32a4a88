import PairingSig.Binary
import PairingSig.Bytes

/-!
# The base field

Integers modulo the prime `fieldOrder`, held by their least residues. Inverses and square roots are
powers, which is right because the order is prime and leaves remainder three modulo four.
-/

namespace PairingSig

/-- The prime over which the curves are defined. -/
def fieldOrder : Nat :=
  0x1a0111ea397fe69a4b1ba7b6434bacd764774b84f38512bf6730d2a0f6b0f6241eabfffeb153ffffb9feffffffffaaab

theorem fieldOrder_pos : 0 < fieldOrder := by decide

theorem fieldOrder_lt : fieldOrder < Bytes.bound 48 := by decide

/-- A residue modulo the field order. -/
@[ext] structure Fp where
  val : Nat
  isLt : val < fieldOrder
  deriving DecidableEq, Repr

namespace Fp

def ofNat (n : Nat) : Fp :=
  ⟨n % fieldOrder, Nat.mod_lt n fieldOrder_pos⟩

/-! ## Arithmetic -/

instance : Zero Fp := ⟨ofNat 0⟩

instance : One Fp := ⟨ofNat 1⟩

instance : Add Fp := ⟨fun x y => ofNat (x.val + y.val)⟩

instance : Neg Fp := ⟨fun x => ofNat (fieldOrder - x.val)⟩

instance : Sub Fp := ⟨fun x y => ofNat (x.val + (fieldOrder - y.val))⟩

instance : Mul Fp := ⟨fun x y => ofNat (x.val * y.val)⟩

/-- The inverse of a non-zero element; zero stays zero. -/
def inverse (x : Fp) : Fp :=
  Binary.power 381 x (fieldOrder - 2)

instance : Inv Fp := ⟨inverse⟩

/-- A square root, if there is one. -/
def sqrt? (x : Fp) : Option Fp :=
  -- The roots of a square are this power and its negative.
  let root := Binary.power 381 x ((fieldOrder + 1) / 4)
  if root * root = x then some root else none

/-- Whether an element is the larger one of itself and its negative. -/
def isLarger (x : Fp) : Bool :=
  decide ((-x).val < x.val)

def isOdd (x : Fp) : Bool :=
  decide (x.val % 2 = 1)

/-! ## Writing -/

/-- The least residue in 48 big-endian bytes. -/
def encode (x : Fp) : Bytes :=
  Bytes.ofNat 48 x.val

/-- Reads 48 big-endian bytes whose number is a least residue. -/
def decode? (bs : Bytes) : Option Fp :=
  if bs.length = 48 then
    if h : Bytes.toNat bs < fieldOrder then some ⟨Bytes.toNat bs, h⟩ else none
  else none

@[simp] theorem length_encode (x : Fp) : (encode x).length = 48 :=
  Bytes.length_ofNat 48 x.val

theorem decode?_eq_some {bs : Bytes} {x : Fp} (hl : bs.length = 48)
    (h : Bytes.toNat bs = x.val) : decode? bs = some x := by
  have hlt : Bytes.toNat bs < fieldOrder := h ▸ x.isLt
  rw [decode?, if_pos hl, dif_pos hlt]
  exact congrArg some (Fp.ext h)

/-- What is written for an element is read as that element. -/
theorem decode?_encode (x : Fp) : decode? (encode x) = some x :=
  decode?_eq_some (length_encode x) (Bytes.toNat_ofNat (Nat.lt_trans x.isLt fieldOrder_lt))

theorem encode_of_decode? {bs : Bytes} {x : Fp} (h : decode? bs = some x) : encode x = bs := by
  unfold decode? at h
  split at h
  · rename_i hl
    split at h
    · cases h
      exact Bytes.ofNat_toNat hl
    · cases h
  · cases h

end Fp

end PairingSig
