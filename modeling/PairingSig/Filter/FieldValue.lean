import PairingSig.Filter.Pattern
import PairingSig.Text.LetterCase

/-!
# Values of fields in filters

A filter may ask for the value of a field: a number or a pattern.
-/

namespace PairingSig.FieldValue

/-- A text without the sign at its beginning, if it has one. -/
def unsigned : List Char → List Char
  | [] => []
  | c :: cs => if c = '+' || c = '-' then cs else c :: cs

/-- Whether a text is the exponent of a number, or nothing. -/
def isExponent : List Char → Bool
  | [] => true
  | c :: cs => (c = 'e' || c = 'E') && !(unsigned cs).isEmpty && (unsigned cs).all Char.isDigit

/-- Whether a text is decimal digits, with a point before, among or after them, and an exponent. -/
def isDecimal (cs : List Char) : Bool :=
  let whole := cs.takeWhile Char.isDigit
  match cs.dropWhile Char.isDigit with
  | '.' :: rest =>
    !(whole.isEmpty && (rest.takeWhile Char.isDigit).isEmpty) &&
      isExponent (rest.dropWhile Char.isDigit)
  | rest => !whole.isEmpty && isExponent rest

def isNumber (cs : List Char) : Bool :=
  isDecimal (unsigned cs) || ["inf", "infinity", "nan"].contains (Text.lower (unsigned cs))

/-- Whether a text is a value to ask for. -/
def isValid (cs : List Char) : Bool :=
  isNumber cs || Pattern.isWellFormed cs

end PairingSig.FieldValue
