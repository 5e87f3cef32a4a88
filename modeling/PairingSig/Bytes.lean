/-!
# Byte strings

Keys, signatures, seeds and messages are byte strings. This module holds the type, the fixed-width
big-endian writing of numbers that every encoding of the library uses, and the little-endian one
in which scalars are handed to the arithmetic.

Main statements: `ofNat_toNat`, a string is what is written for the number that it writes;
`toNat_ofNat`, a number that fits is read back.
-/

namespace PairingSig

/-- A byte string, first byte first. -/
abbrev Bytes := List UInt8

namespace Bytes

/-- The number that a byte string writes in base 256, most significant byte first. -/
def toNat (bs : Bytes) : Nat :=
  bs.foldl (fun n b => 256 * n + b.toNat) 0

/-- The last `width` base-256 digits of a number, most significant first. -/
def ofNat : Nat → Nat → Bytes
  | 0, _ => []
  | width + 1, n => ofNat width (n / 256) ++ [UInt8.ofNat n]

/-- The number that a byte string writes in base 256, least significant byte first. -/
def toNatLittle : Bytes → Nat
  | [] => 0
  | b :: rest => b.toNat + 256 * toNatLittle rest

/-- The last `width` base-256 digits of a number, least significant first. -/
def ofNatLittle : Nat → Nat → Bytes
  | 0, _ => []
  | width + 1, n => UInt8.ofNat n :: ofNatLittle width (n / 256)

/-- A buffer of `width` zeros, filled from its front with the bytes of a string, last byte first. -/
def reversedInto (width : Nat) (bs : Bytes) : Bytes :=
  bs.reverse.take width ++ List.replicate (width - bs.length) 0

/-- How many numbers there are to write in `width` bytes. -/
def bound : Nat → Nat
  | 0 => 1
  | width + 1 => 256 * bound width

/-- The bytes of a text in UTF-8. -/
def ofText (s : String) : Bytes :=
  s.toUTF8.data.toList

/-- The bitwise difference of two strings, as long as the shorter one. -/
def xor (as bs : Bytes) : Bytes :=
  as.zipWith (· ^^^ ·) bs

/-! ## Laws of the big-endian writing -/

@[simp] theorem length_ofNat (width n : Nat) : (ofNat width n).length = width := by
  induction width generalizing n with
  | zero => rfl
  | succ w ih => simp [ofNat, ih]

@[simp] theorem toNat_nil : toNat [] = 0 := rfl

theorem toNat_append_singleton (bs : Bytes) (b : UInt8) :
    toNat (bs ++ [b]) = 256 * toNat bs + b.toNat := by
  simp [toNat]

theorem foldl_eq (n : Nat) (bs : Bytes) :
    bs.foldl (fun n b => 256 * n + b.toNat) n = n * bound bs.length + toNat bs := by
  induction bs generalizing n with
  | nil => rw [List.foldl_nil, List.length_nil, bound, Nat.mul_one, toNat_nil, Nat.add_zero]
  | cons b rest ih =>
    have htail : toNat (b :: rest) = (256 * 0 + b.toNat) * bound rest.length + toNat rest :=
      ih (256 * 0 + b.toNat)
    rw [List.foldl_cons, ih, htail, List.length_cons, bound]
    grind

/-- The first byte is the most significant one. -/
theorem toNat_cons (b : UInt8) (rest : Bytes) :
    toNat (b :: rest) = b.toNat * bound rest.length + toNat rest := by
  rw [toNat, List.foldl_cons, foldl_eq, Nat.mul_zero, Nat.zero_add]

theorem toNat_lt (bs : Bytes) : toNat bs < bound bs.length := by
  induction bs with
  | nil => decide
  | cons b rest ih =>
    have hb : b.toNat ≤ 255 := Nat.le_of_lt_succ b.toNat_lt
    have hmul := Nat.mul_le_mul_right (bound rest.length) hb
    rw [toNat_cons, List.length_cons, bound]
    omega

theorem ofNat_toNat {width : Nat} {bs : Bytes} (h : bs.length = width) :
    ofNat width (toNat bs) = bs := by
  subst h
  -- Writing takes the last byte off first, so the induction is on the mirrored string.
  rw [← List.reverse_reverse bs]
  induction bs.reverse with
  | nil => rfl
  | cons b r ih =>
    rw [List.reverse_cons, toNat_append_singleton, List.length_append, List.length_singleton, ofNat]
    have hb := b.toNat_lt
    have hq : (256 * toNat r.reverse + b.toNat) / 256 = toNat r.reverse := by omega
    have hr : UInt8.ofNat (256 * toNat r.reverse + b.toNat) = b := by
      apply UInt8.toNat_inj.1
      rw [UInt8.toNat_ofNat']
      omega
    rw [hq, hr, ih]

theorem toNat_ofNat {width n : Nat} (h : n < bound width) : toNat (ofNat width n) = n := by
  induction width generalizing n with
  | zero =>
    rw [bound, Nat.lt_one_iff] at h
    rw [h]
    rfl
  | succ w ih =>
    have hq : n / 256 < bound w := Nat.div_lt_of_lt_mul h
    rw [ofNat, toNat_append_singleton, ih hq, UInt8.toNat_ofNat']
    omega

/-! ## Laws of the little-endian writing -/

theorem toNatLittle_zeros (n : Nat) : toNatLittle (List.replicate n 0) = 0 := by
  induction n with
  | zero => rfl
  | succ n ih =>
    rw [List.replicate_succ, toNatLittle, ih]
    rfl

theorem toNatLittle_append_zeros (bs : Bytes) (n : Nat) :
    toNatLittle (bs ++ List.replicate n 0) = toNatLittle bs := by
  induction bs with
  | nil => rw [List.nil_append, toNatLittle_zeros, toNatLittle]
  | cons b rest ih => rw [List.cons_append, toNatLittle, ih, toNatLittle]

/-- Read from its other end, a string writes the same number in the other order. -/
theorem toNatLittle_reverse (bs : Bytes) : toNatLittle bs.reverse = toNat bs := by
  rw [← List.reverse_reverse bs, List.reverse_reverse bs.reverse]
  induction bs.reverse with
  | nil => rfl
  | cons b r ih => rw [toNatLittle, ih, List.reverse_cons, toNat_append_singleton, Nat.add_comm]

/-- The digits of a number in the two orders mirror each other. -/
theorem reverse_ofNatLittle (width n : Nat) : (ofNatLittle width n).reverse = ofNat width n := by
  induction width generalizing n with
  | zero => rfl
  | succ w ih => rw [ofNatLittle, List.reverse_cons, ih, ofNat]

@[simp] theorem length_ofNatLittle (width n : Nat) : (ofNatLittle width n).length = width := by
  rw [← List.length_reverse, reverse_ofNatLittle, length_ofNat]

/-- A buffer with room for the whole string still writes its number. -/
theorem toNatLittle_reversedInto {width : Nat} {bs : Bytes} (h : bs.length ≤ width) :
    toNatLittle (reversedInto width bs) = toNat bs := by
  rw [reversedInto, List.take_of_length_le (by rwa [List.length_reverse]),
    toNatLittle_append_zeros, toNatLittle_reverse]

/-- A buffer of the string's own length holds its mirror image. -/
theorem reversedInto_length (bs : Bytes) : reversedInto bs.length bs = bs.reverse := by
  rw [reversedInto, List.take_of_length_le (Nat.le_of_eq List.length_reverse),
    Nat.sub_self, List.replicate_zero, List.append_nil]

end Bytes

end PairingSig
