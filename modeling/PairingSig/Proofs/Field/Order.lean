import PairingSig.Field.Prime
import PairingSig.Proofs.Primality

/-!
# The order of the base field is prime

Complements the criterion `prime_of_factors`, which takes the prime factors of the number less one
for granted. Those of `fieldOrder` less one are large themselves, so they come with a certificate:
a list of lines, each of which shows one more number to be prime from the primes known before it.

Main statements: `prime_of_certificate`; `fieldOrder_prime`.
-/

namespace PairingSig

/-! ## Certificates -/

/-- A number, a residue of full order modulo it, and the prime factors of the number less one. -/
structure PrattLine where
  number : Nat
  residue : Nat
  factors : List Nat

/-- A line shows its number to be prime from known primes. -/
def PrattLine.Holds (width : Nat) (known : List Nat) (l : PrattLine) : Prop :=
  1 < l.number ∧ l.number < 2 ^ width ∧ (∀ q ∈ l.factors, q ∈ known) ∧
    l.factors.prod = l.number - 1 ∧
    residuePower l.number width l.residue (l.number - 1) % l.number = 1 ∧
    ∀ q ∈ l.factors,
      residuePower l.number width l.residue ((l.number - 1) / q) % l.number ≠ 1

instance (width : Nat) (known : List Nat) (l : PrattLine) : Decidable (l.Holds width known) :=
  inferInstanceAs (Decidable (_ ∧ _))

/-- The primes known after a certificate: each line that holds adds its number. -/
def certified (width : Nat) : List Nat → List PrattLine → List Nat
  | known, [] => known
  | known, l :: rest =>
    if l.Holds width known then certified width (l.number :: known) rest
    else certified width known rest

theorem PrattLine.Holds.prime {width : Nat} {known : List Nat} {l : PrattLine}
    (h : l.Holds width known) (hknown : ∀ q ∈ known, q.Prime) : l.number.Prime := by
  obtain ⟨hone, hwidth, hfactors, hprod, hfull, hpart⟩ := h
  exact prime_of_factors width l.residue l.factors hone hwidth
    (fun q hq => hknown q (hfactors q hq)) hprod hfull hpart

/-- **Certificates are sound**: from known primes they lead to primes only. -/
theorem prime_of_certificate (width : Nat) {known : List Nat} (hknown : ∀ q ∈ known, q.Prime)
    (lines : List PrattLine) : ∀ q ∈ certified width known lines, q.Prime := by
  -- A line that holds extends the known primes by one for the lines behind it.
  induction lines generalizing known with
  | nil => exact hknown
  | cons l rest ih =>
    rw [certified]
    split
    · rename_i hl
      exact ih (List.forall_mem_cons.2 ⟨hl.prime hknown, hknown⟩)
    · exact ih hknown

/-! ## The certificate of the field order -/

/-- The primes below `10 ^ 7` that the certificate starts from. -/
def fieldOrderPrimes : List Nat :=
  [2, 3, 5, 7, 11, 13, 17, 19, 23, 31, 43, 47, 53, 89, 113, 151, 409, 467, 941, 3373, 7577, 8101,
    10177, 16447, 43591, 421987, 582767, 609743, 755057, 859267, 1686913]

/-- The larger prime factors met on the way to the field order, which comes last. -/
def fieldOrderCertificate : List PrattLine :=
  [⟨51376543, 3, [2, 3, 7, 151, 8101]⟩,
    ⟨52437899, 2, [2, 43, 609743]⟩,
    ⟨475709467, 2, [2, 3, 47, 1686913]⟩,
    ⟨927093389, 3, [2, 2, 13, 409, 43591]⟩,
    ⟨13090036741, 10, [2, 2, 3, 5, 11, 47, 421987]⟩,
    ⟨43670061551, 7, [2, 5, 5, 17, 51376543]⟩,
    ⟨9272813673901, 2, [2, 2, 3, 5, 5, 7, 7577, 582767]⟩,
    ⟨64881703735777, 5, List.replicate 5 2 ++ List.replicate 7 3 ++ [927093389]⟩,
    ⟨1928745244171409, 3, [2, 2, 2, 2, 13, 9272813673901]⟩,
    ⟨7259797099061183477, 2, [2, 2, 941, 1928745244171409]⟩,
    ⟨2584487767265781317813, 2, [2, 2, 89, 7259797099061183477]⟩,
    ⟨3819663927398918131021, 6, [2, 2, 3, 3, 5, 19, 113, 755057, 13090036741]⟩,
    ⟨92691255082156974996979, 3, [2, 3, 31, 467, 16447, 64881703735777]⟩,
    ⟨1125266252156850182658904441386709967, 5, [2, 3373, 43670061551, 3819663927398918131021]⟩,
    ⟨15778400344354997994418419698270088123916926905054652752758194827714659, 2,
      [2, 3, 53, 475709467, 92691255082156974996979, 1125266252156850182658904441386709967]⟩,
    ⟨fieldOrder, 2,
      [2, 3, 3, 11, 23, 47, 10177, 859267, 52437899, 2584487767265781317813,
        15778400344354997994418419698270088123916926905054652752758194827714659]⟩]

theorem prime_of_mem_fieldOrderPrimes : ∀ q ∈ fieldOrderPrimes, q.Prime := by
  norm_num [fieldOrderPrimes]

theorem fieldOrder_prime : fieldOrder.Prime := by
  apply prime_of_certificate 381 prime_of_mem_fieldOrderPrimes fieldOrderCertificate
  decide +kernel

instance : Fact fieldOrder.Prime := ⟨fieldOrder_prime⟩

end PairingSig
