import PairingSig.Text.Alphabetic
import PairingSig.Text.Numeric

/-!
# Letters and numbers

The characters of all scripts that words are made of.
-/

namespace PairingSig.Text

/-- Whether a character is alphabetic or numeric. -/
def isAlphanumeric (c : Char) : Bool :=
  isAlphabetic c || isNumeric c

end PairingSig.Text
