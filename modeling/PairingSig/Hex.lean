import PairingSig.Bytes

/-!
# Hexadecimal text

Bytes are written with two lower-case digits each. Reading takes the bytes of a text and accepts
either letter case; it refuses an odd number of bytes first, and otherwise names the first byte
that is no digit and its position.
-/

namespace PairingSig.Hex

/-- Why a text is no hexadecimal writing of bytes. -/
inductive Defect where
  | oddLength
  | badDigit (byte : UInt8) (position : Nat)
  deriving DecidableEq, Repr

/-- The lower-case digit of a number below sixteen. -/
def digit (n : Nat) : Char :=
  if n < 10 then Char.ofNat (48 + n) else Char.ofNat (87 + n)

/-- The value of a hexadecimal digit, given as its byte, in either letter case. -/
def digitValue? (b : UInt8) : Option Nat :=
  let n := b.toNat
  if 48 ≤ n ∧ n ≤ 57 then some (n - 48)
  else if 97 ≤ n ∧ n ≤ 102 then some (n - 87)
  else if 65 ≤ n ∧ n ≤ 70 then some (n - 55)
  else none

/-- The two digits of a byte. -/
def digitsOf (b : UInt8) : List Char :=
  [digit (b.toNat / 16), digit (b.toNat % 16)]

/-- Writes bytes as lower-case hexadecimal text. -/
def encode (bs : Bytes) : String :=
  String.ofList (bs.flatMap digitsOf)

/-- Reads digit pairs from `position` on; `read` holds the bytes read so far, last one first. -/
def decodeFrom (position : Nat) (read : Bytes) : Bytes → Except Defect Bytes
  | high :: low :: rest =>
    match digitValue? high with
    | none => .error (.badDigit high position)
    | some h =>
      match digitValue? low with
      | none => .error (.badDigit low (position + 1))
      | some l => decodeFrom (position + 2) (UInt8.ofNat (16 * h + l) :: read) rest
  | _ => .ok read.reverse

/-- Reads hexadecimal text, given as its bytes. -/
def decode (text : Bytes) : Except Defect Bytes :=
  if text.length % 2 = 1 then .error .oddLength else decodeFrom 0 [] text

end PairingSig.Hex
