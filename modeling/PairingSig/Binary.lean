/-!
# The binary method

Powers and multiples are formed from doublings and single additions, one bit of the exponent at a
time, most significant bit first. The number of bits is given, so the method is a structural
recursion and costs the same whatever the number is.
-/

namespace PairingSig.Binary

variable {M : Type}

/--
Combines `n % 2 ^ width` copies of an element, where `double` doubles a combination and `join`
adds one more copy to it.
-/
@[specialize] def combine (zero : M) (double join : M → M) : Nat → Nat → M
  | 0, _ => zero
  | width + 1, n =>
    let twice := double (combine zero double join width (n / 2))
    if n % 2 = 1 then join twice else twice

/-- The power `x ^ n` for an exponent below `2 ^ width`. -/
@[specialize] def power [One M] [Mul M] (width : Nat) (x : M) (n : Nat) : M :=
  combine 1 (fun y => y * y) (fun y => y * x) width n

end PairingSig.Binary
