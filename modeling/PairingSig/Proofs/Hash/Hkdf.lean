import PairingSig.Hash.Hkdf

/-!
# Key derivation by numbered blocks

An authentication code hashes the message behind a masked key, and then the hash behind the same key
under another mask. An expansion chains the codes: each block is the code of the block before it,
the context and its own number.

- **Codes**: `mac` says for a key of at most one block what is hashed, and `hmac_of_short` that this
  is the code;
- **Blocks**: `outputBlock` is one block by its number, `expandBlocks_outputBlock` a run of the
  expansion from any block on, and `expand_eq` the whole of it.
-/

namespace PairingSig.Hkdf

/-! ## Codes -/

/-- A key behind a mask, filled up to one block of the hash. -/
def maskedKey (key : Bytes) (mask : UInt8) : Bytes :=
  key.map (fun b => b ^^^ mask) ++ List.replicate (64 - key.length) mask

/-- The code of a message under a key that fits one block. -/
def mac (key message : Bytes) : Bytes :=
  Sha256.digest (maskedKey key 0x5c ++ Sha256.digest (maskedKey key 0x36 ++ message))

@[simp] theorem length_mac (key message : Bytes) : (mac key message).length = 32 := by
  simp [mac]

theorem map_blockKey {key : Bytes} (h : key.length ≤ 64) (mask : UInt8) :
    (blockKey key).map (fun b => b ^^^ mask) = maskedKey key mask := by
  -- The zeros that fill the key up come out of the masking as the mask itself.
  have hzero : (0 : UInt8) ^^^ mask = mask := UInt8.zero_xor
  simp [blockKey, maskedKey, h, hzero]

theorem hmac_of_short {key : Bytes} (h : key.length ≤ 64) (message : Bytes) :
    hmac key message = mac key message := by
  simp only [hmac, map_blockKey h, mac]

/-! ## Blocks -/

/-- The block with a number, the first one having number one. -/
def outputBlock (key info : Bytes) : Nat → Bytes
  | 0 => []
  | i + 1 => hmac key (outputBlock key info i ++ info ++ [UInt8.ofNat (i + 1)])

/-- A run that starts behind a block of the chain yields the blocks that follow it. -/
theorem expandBlocks_outputBlock (key info : Bytes) (n i : Nat) :
    expandBlocks key info n (i + 1) (outputBlock key info i) =
      (List.range' (i + 1) n).flatMap (outputBlock key info) := by
  induction n generalizing i with
  | zero => rfl
  | succ n ih =>
    -- The block that the run computes next is the one with its number.
    have hnext : hmac key (outputBlock key info i ++ info ++ [UInt8.ofNat (i + 1)]) =
        outputBlock key info (i + 1) := rfl
    rw [List.range'_succ, List.flatMap_cons, expandBlocks, hnext, ih (i + 1)]

/-- An expansion is the beginning of the chain of numbered blocks. -/
theorem expand_eq (key info : Bytes) (length : Nat) :
    expand key info length =
      ((List.range' 1 ((length + 31) / 32)).flatMap (outputBlock key info)).take length := by
  rw [expand, ← expandBlocks_outputBlock key info _ 0, outputBlock]

end PairingSig.Hkdf
