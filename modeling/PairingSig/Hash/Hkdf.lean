import PairingSig.Hash.Sha256

/-!
# Keyed hashing and key derivation

The message authentication code HMAC over SHA-256, and the extract-and-expand key derivation built
on it: `extract` condenses input material into a key of 32 bytes, and `expand` stretches that key
to as many bytes as are wanted (at most 255 times 32).
-/

namespace PairingSig.Hkdf

/-- A key brought to the length of one hash block: longer keys are hashed, shorter ones filled
up. -/
def blockKey (key : Bytes) : Bytes :=
  let short := if key.length ≤ 64 then key else Sha256.digest key
  short ++ List.replicate (64 - short.length) 0

/-- The authentication code of a message under a key. -/
def hmac (key message : Bytes) : Bytes :=
  let block := blockKey key
  Sha256.digest (block.map (· ^^^ 0x5c) ++ Sha256.digest (block.map (· ^^^ 0x36) ++ message))

/-- Condenses input material under a salt. -/
def extract (salt material : Bytes) : Bytes :=
  hmac salt material

/-- `n` output blocks, the first of them with number `index`, each keyed on the one before. -/
def expandBlocks (key info : Bytes) : Nat → Nat → Bytes → Bytes
  | 0, _, _ => []
  | n + 1, index, previous =>
    let block := hmac key (previous ++ info ++ [UInt8.ofNat index])
    block ++ expandBlocks key info n (index + 1) block

/-- Stretches a key to `length` bytes, bound to the context `info`. -/
def expand (key info : Bytes) (length : Nat) : Bytes :=
  (expandBlocks key info ((length + 31) / 32) 1 []).take length

theorem length_expandBlocks (key info : Bytes) (n index : Nat) (previous : Bytes) :
    (expandBlocks key info n index previous).length = 32 * n := by
  induction n generalizing index previous with
  | zero => rfl
  | succ n ih =>
    simp only [expandBlocks, List.length_append, ih, hmac, Sha256.length_digest]
    omega

@[simp] theorem length_expand (key info : Bytes) (length : Nat) :
    (expand key info length).length = length := by
  rw [expand, List.length_take, length_expandBlocks]
  omega

end PairingSig.Hkdf
