import PairingSig.Bytes
import PairingSig.GroupOrder

/-!
# Scalars on bytes

The arithmetic of scalars takes bytes with the least significant one first: 32 of them for a scalar
as it stands, 64 for a number that is to be reduced. Keys are written the other way round, so a
conversion reverses them.

Main statement: `val_reduce`, the detour over 64 reversed bytes gives the residue of the number that
the bytes write.
-/

namespace PairingSig

theorem groupOrder_lt : groupOrder < Bytes.bound 32 := by decide

namespace Scalar

def isZero (k : Scalar) : Bool :=
  decide (k = ofNat 0)

/-- Reads bytes, least significant first, whose number is below the group order. -/
def ofBytes? (bs : Bytes) : Option Scalar :=
  if h : Bytes.toNatLittle bs < groupOrder then some ⟨Bytes.toNatLittle bs, h⟩ else none

/-- The 32 bytes of a scalar, least significant first. -/
def toBytes (k : Scalar) : Bytes :=
  Bytes.ofNatLittle 32 k.val

/-- The residue of the number in 64 bytes, least significant first. -/
def ofWideBytes (bs : Bytes) : Scalar :=
  ofNat (Bytes.toNatLittle bs)

/-- The residue of a number that is written most significant byte first. -/
def reduce (bs : Bytes) : Scalar :=
  ofWideBytes (Bytes.reversedInto 64 bs)

theorem isZero_iff (k : Scalar) : k.isZero = true ↔ k.val = 0 := by
  rw [isZero, decide_eq_true_iff, Fin.ext_iff]
  rfl

theorem val_of_ofBytes? {bs : Bytes} {k : Scalar} (h : ofBytes? bs = some k) :
    k.val = Bytes.toNatLittle bs := by
  unfold ofBytes? at h
  split at h
  · cases h
    rfl
  · cases h

theorem ofBytes?_eq_none_iff (bs : Bytes) :
    ofBytes? bs = none ↔ groupOrder ≤ Bytes.toNatLittle bs := by
  unfold ofBytes?
  split
  · rename_i h
    exact ⟨fun hn => (Option.some_ne_none _ hn).elim, fun hle => absurd h (Nat.not_lt.2 hle)⟩
  · rename_i h
    exact ⟨fun _ => Nat.not_lt.1 h, fun _ => rfl⟩

theorem val_reduce {bs : Bytes} (h : bs.length ≤ 64) :
    (reduce bs).val = Bytes.toNat bs % groupOrder := by
  show Bytes.toNatLittle (Bytes.reversedInto 64 bs) % groupOrder = Bytes.toNat bs % groupOrder
  rw [Bytes.toNatLittle_reversedInto h]

end Scalar

end PairingSig
