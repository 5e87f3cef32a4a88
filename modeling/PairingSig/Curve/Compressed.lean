import PairingSig.Bytes
import PairingSig.Curve.Point
import PairingSig.Field.Quadratic
import PairingSig.GroupOrder

/-!
# Compressed points

A point is written as its `x` coordinate, with three flags in the top bits of the first byte:
128 says that the form is compressed, 64 that the point is the identity, 32 that `y` is the larger
of the two roots. A reader accepts only what a writer produces for a point of the right order.
-/

namespace PairingSig

/-- What a field needs for the points over it to be written down. -/
class Coordinate (F : Type) where
  /-- The number of bytes of an element. -/
  width : Nat
  encode : F → Bytes
  decode? : Bytes → Option F
  sqrt? : F → Option F
  isLarger : F → Bool

instance : Coordinate Fp where
  width := 48
  encode := Fp.encode
  decode? := Fp.decode?
  sqrt? := Fp.sqrt?
  isLarger := Fp.isLarger

instance : Coordinate Fp2 where
  width := 96
  encode := Fp2.encode
  decode? := Fp2.decode?
  sqrt? := Fp2.sqrt?
  isLarger := Fp2.isLarger

namespace Compressed

/-- The flags of a written point. -/
structure Flags where
  compressed : Bool
  identity : Bool
  larger : Bool
  deriving DecidableEq, Repr

/-- The flags in the top three bits of a byte. -/
def Flags.ofByte (b : UInt8) : Flags :=
  ⟨decide (128 ≤ b.toNat), decide (64 ≤ b.toNat % 128), decide (32 ≤ b.toNat % 64)⟩

/-- A byte below 32 with the flags of a compressed point that is not the identity on top. -/
def flagged (larger : Bool) (b : UInt8) : UInt8 :=
  UInt8.ofNat (128 + (if larger then 32 else 0) + b.toNat)

def unflagged (b : UInt8) : UInt8 :=
  UInt8.ofNat (b.toNat % 32)

variable {F : Type} [Zero F] [One F] [Add F] [Sub F] [Neg F] [Mul F] [Inv F] [DecidableEq F]
  [CurveConstant F] [Coordinate F]

/-- Whether a point vanishes when it is taken `groupOrder` times. -/
def inSubgroup (P : Point F) : Bool :=
  (P.multiple 255 groupOrder).isIdentity

/-- The writing of the identity over a field. -/
def identityBytes (F : Type) [Coordinate F] : Bytes :=
  0xc0 :: List.replicate (Coordinate.width F - 1) 0

def encode (P : Point F) : Bytes :=
  if P.isIdentity then identityBytes F
  else
    let (x, y) := P.toAffine
    -- Elements leave the top bits free for the flags.
    match Coordinate.encode x with
    | [] => []
    | top :: rest => flagged (Coordinate.isLarger y) top :: rest

/-- The point with a given `x` coordinate whose `y` is the larger or the smaller root, if any. -/
def lift? (x : F) (larger : Bool) : Option (Point F) :=
  match Coordinate.sqrt? (x * x * x + CurveConstant.b) with
  | none => none
  | some y => some (.affine x (if Coordinate.isLarger y = larger then y else -y))

/-- Reads a point of the subgroup. -/
def decode? : Bytes → Option (Point F)
  | [] => none
  | top :: rest =>
    match Flags.ofByte top with
    | ⟨compressed, identity, larger⟩ =>
      match (Coordinate.decode? (unflagged top :: rest) : Option F) with
      | none => none
      | some x =>
        -- Uncompressed forms are never accepted, not even for the identity.
        if compressed = false then none
        else if identity = true then
          if larger = false ∧ x = 0 then some .identity else none
        else
          match lift? x larger with
          | none => none
          -- Most points of the curve lie outside the subgroup.
          | some P => if inSubgroup P then some P else none

end Compressed

end PairingSig
