import PairingSig.Fault
import PairingSig.Scalar

/-!
# Private keys

A private key is a scalar modulo the group order, held as its 32 bytes, most significant first. It
is zero only once it has been wiped: neither reading nor generating yields the zero scalar.

Main statements: `decode_eq_ok_iff`, what is read is what stands there; `val_scalar`, the scalar
that a key computes with is the number that its bytes write.
-/

namespace PairingSig

def privateKeyLength : Nat := 32

structure PrivateKey where
  bytes : Bytes
  length_bytes : bytes.length = privateKeyLength
  toNat_bytes_lt : Bytes.toNat bytes < groupOrder
  deriving DecidableEq

namespace PrivateKey

/-- The bytes that a key is held as. -/
def encode (k : PrivateKey) : Bytes :=
  k.bytes

/-- The scalar that a key computes with. -/
def scalar (k : PrivateKey) : Scalar :=
  -- The bytes are below the group order, so the reduction changes nothing.
  .reduce k.bytes

theorem toNat_lt_of_ofBytes? {bs : Bytes} {k : Scalar}
    (h : Scalar.ofBytes? bs.reverse = some k) : Bytes.toNat bs < groupOrder := by
  rw [← Bytes.toNatLittle_reverse, ← Scalar.val_of_ofBytes? h]
  exact k.isLt

/-- Reads a scalar that is neither zero nor out of range. -/
def decode (bs : Bytes) : Except Fault PrivateKey :=
  if hl : bs.length = privateKeyLength then
    match hk : Scalar.ofBytes? bs.reverse with
    | none => .error (.privateKey .outOfRange)
    | some k =>
      if k.isZero then .error (.privateKey .zero) else .ok ⟨bs, hl, toNat_lt_of_ofBytes? hk⟩
  else .error (.privateKey (.length bs.length))

theorem toNat_reversed_toBytes (k : Scalar) :
    Bytes.toNat (Bytes.reversedInto privateKeyLength k.toBytes) = k.val := by
  have hr : Bytes.reversedInto privateKeyLength k.toBytes = Bytes.ofNat 32 k.val := by
    have hl : k.toBytes.length = privateKeyLength := Bytes.length_ofNatLittle _ _
    rw [← hl, Bytes.reversedInto_length, Scalar.toBytes, Bytes.reverse_ofNatLittle]
  rw [hr, Bytes.toNat_ofNat (Nat.lt_trans k.isLt groupOrder_lt)]

def ofScalar (k : Scalar) : PrivateKey where
  bytes := Bytes.reversedInto privateKeyLength k.toBytes
  length_bytes := by
    have hl : k.toBytes.length = privateKeyLength := Bytes.length_ofNatLittle _ _
    rw [← hl, Bytes.reversedInto_length, List.length_reverse]
  toNat_bytes_lt := by
    rw [toNat_reversed_toBytes]
    exact k.isLt

/-- What is left of a key that was wiped. -/
def wiped : PrivateKey where
  bytes := List.replicate privateKeyLength 0
  length_bytes := List.length_replicate
  toNat_bytes_lt := by decide

/-- What may be shown of a key. -/
def description (_ : PrivateKey) : String :=
  "PrivateKey(<redacted>)"

/-! ## Laws -/

@[simp] theorem length_encode (k : PrivateKey) : k.encode.length = 32 :=
  k.length_bytes

theorem val_scalar (k : PrivateKey) : k.scalar.val = Bytes.toNat k.encode := by
  have hl : k.bytes.length ≤ 64 := by
    rw [k.length_bytes]
    decide
  rw [scalar, Scalar.val_reduce hl, Nat.mod_eq_of_lt k.toNat_bytes_lt, encode]

theorem scalar_ofScalar (k : Scalar) : (ofScalar k).scalar = k := by
  apply Fin.ext
  rw [val_scalar]
  exact toNat_reversed_toBytes k

/-- A key is read from its own bytes only, and only from those of a number within range. -/
theorem decode_eq_ok_iff (bs : Bytes) (k : PrivateKey) :
    decode bs = .ok k ↔ k.encode = bs ∧ 0 < Bytes.toNat bs := by
  unfold decode
  constructor
  · -- Of the ways through the three tests, only the last one yields a key.
    intro h
    split at h
    · split at h
      · cases h
      · rename_i s hs
        split at h
        · cases h
        · rename_i hz
          cases h
          refine ⟨rfl, Nat.pos_of_ne_zero fun h0 => hz ?_⟩
          rw [Scalar.isZero_iff, Scalar.val_of_ofBytes? hs, Bytes.toNatLittle_reverse, h0]
    · cases h
  · rintro ⟨rfl, hpos⟩
    rw [dif_pos (show k.encode.length = privateKeyLength from k.length_bytes)]
    -- The bytes of a key are in range by its type, so they are read as a scalar.
    split
    · rename_i hn
      rw [Scalar.ofBytes?_eq_none_iff, Bytes.toNatLittle_reverse] at hn
      exact absurd k.toNat_bytes_lt (Nat.not_lt.2 hn)
    · rename_i s hs
      have hs' : s.val = Bytes.toNat k.encode := by
        rw [Scalar.val_of_ofBytes? hs, Bytes.toNatLittle_reverse]
      rw [if_neg fun hz => Nat.ne_of_gt hpos (by rw [← hs', (Scalar.isZero_iff s).1 hz])]
      rfl

/-- A key that was read has a scalar other than zero. -/
theorem val_scalar_pos {bs : Bytes} {k : PrivateKey} (h : decode bs = .ok k) :
    0 < k.scalar.val := by
  obtain ⟨rfl, hpos⟩ := (decode_eq_ok_iff bs k).1 h
  rw [val_scalar]
  exact hpos

end PrivateKey

end PairingSig
