/-!
# The group order

The groups of public keys and of signatures have the same prime number of elements. Private keys are
scalars modulo this number.
-/

namespace PairingSig

/-- The number of elements of each group. -/
def groupOrder : Nat :=
  0x73eda753299d7d483339d80809a1d80553bda402fffe5bfeffffffff00000001

theorem groupOrder_pos : 0 < groupOrder := by decide

/-- An integer modulo the group order. -/
abbrev Scalar := Fin groupOrder

namespace Scalar

/-- The residue of a number. -/
def ofNat (n : Nat) : Scalar :=
  ⟨n % groupOrder, Nat.mod_lt n groupOrder_pos⟩

end Scalar

end PairingSig
