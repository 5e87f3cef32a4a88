/-!
# Letter case

Words of the ASCII alphabet that may be written in capitals, in small letters or in both.
-/

namespace PairingSig.Text

/-- The small form of a letter of the ASCII alphabet; any other character stays. -/
def lowerChar (c : Char) : Char :=
  if 'A' ≤ c ∧ c ≤ 'Z' then Char.ofNat (c.toNat + 32) else c

/-- A text with its letters of the ASCII alphabet small. -/
def lower (cs : List Char) : String :=
  String.ofList (cs.map lowerChar)

end PairingSig.Text
