import PairingSig.Hash.Sha256

/-!
# Message expansion

Stretches a message to a uniformly distributed string of a chosen length, separated by a domain
tag, so that a hash of messages to field elements can be cut from it.
-/

namespace PairingSig.ExpandMessage

/-- A domain tag followed by its length in one byte. -/
def closeTag (tag : Bytes) : Bytes :=
  tag ++ [UInt8.ofNat tag.length]

/--
`n` further blocks, the first of them with number `index`. Each hashes the difference of the
first hash and the block before it.
-/
def blocks (first closed : Bytes) : Nat → Nat → Bytes → Bytes
  | 0, _, _ => []
  | n + 1, index, previous =>
    let block := Sha256.digest (Bytes.xor first previous ++ [UInt8.ofNat index] ++ closed)
    block ++ blocks first closed n (index + 1) block

/-- Stretches a message to `length` bytes under a domain tag. -/
def expand (tag message : Bytes) (length : Nat) : Bytes :=
  let closed := closeTag tag
  let first := Sha256.digest
    (List.replicate 64 0 ++ message ++ Bytes.ofNat 2 length ++ [0] ++ closed)
  let second := Sha256.digest (first ++ [1] ++ closed)
  (second ++ blocks first closed ((length + 31) / 32 - 1) 2 second).take length

theorem length_blocks (first closed : Bytes) (n index : Nat) (previous : Bytes) :
    (blocks first closed n index previous).length = 32 * n := by
  induction n generalizing index previous with
  | zero => rfl
  | succ n ih =>
    simp only [blocks, List.length_append, ih, Sha256.length_digest]
    omega

@[simp] theorem length_expand (tag message : Bytes) (length : Nat) :
    (expand tag message length).length = length := by
  simp only [expand, List.length_take, List.length_append, length_blocks, Sha256.length_digest]
  omega

end PairingSig.ExpandMessage
