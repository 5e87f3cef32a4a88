import PairingSig.Pairing.Miller

/-!
# The final exponentiation

The values of the Miller loop represent classes; raising them to a fixed power picks one element of
each class, an element of order `groupOrder`. The power used is three times the least one, which
decides equality with one just as well since three is prime to the order.
-/

namespace PairingSig.Pairing

/-- The power with the curve parameter, of an element whose conjugate is its inverse. -/
def powParameter (x : Fp12) : Fp12 :=
  (Binary.power 64 x parameterSize).conjugate

/-- The power `(p⁶ - 1)(p² + 1)`, after which conjugates are inverses. -/
def easyPart (x : Fp12) : Fp12 :=
  -- Conjugation is the power `p⁶`, two Frobenius maps are the power `p²`.
  let y := x.conjugate * x⁻¹
  y.frobenius.frobenius * y

/--
The power `(z - 1)²(z + p)(z² + p² - 1) + 3` for the curve parameter `z`, which is three times
`(p⁴ - p² + 1) / groupOrder`.
-/
def hardPart (x : Fp12) : Fp12 :=
  -- The powers `z - 1` twice, then `z + p`.
  let a := powParameter x * x.conjugate
  let b := powParameter a * a.conjugate
  let c := powParameter b * b.frobenius
  -- The power `z² + p² - 1`.
  let d := powParameter (powParameter c) * c.frobenius.frobenius * c.conjugate
  d * (x * x * x)

/-- The representative of the class of a loop value. -/
def finalExponentiation (x : Fp12) : Fp12 :=
  hardPart (easyPart x)

/-- Whether the product of the pairings of all given pairs is one. -/
def productIsOne (pairs : List (Point Fp × Point Fp2)) : Bool :=
  decide (finalExponentiation (pairs.foldl (fun acc pq => acc * miller pq.1 pq.2) 1) = 1)

end PairingSig.Pairing
