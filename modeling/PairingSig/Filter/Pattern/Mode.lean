import PairingSig.Text.Blank

/-!
# Flags of a pattern

The flags in force at a place of a pattern, as far as they change what may be written there, and
what a pattern with the verbose flag skips.
-/

namespace PairingSig.Pattern

/-- The flags in force at a place of a pattern. -/
structure Mode where
  /-- Letter case does not count. -/
  insensitive : Bool
  /-- Characters are those of Unicode; else they are bytes, and no byte beyond ASCII is one. -/
  unicode : Bool
  /-- Blanks and comments are skipped. -/
  verbose : Bool
  deriving DecidableEq, Repr

namespace Mode

def initial : Mode :=
  ⟨false, true, false⟩

/-- Sets the flag of a letter, where it changes what may be written. -/
def set (m : Mode) (letter : Char) (value : Bool) : Mode :=
  if letter = 'i' then { m with insensitive := value }
  else if letter = 'u' then { m with unicode := value }
  else if letter = 'x' then { m with verbose := value }
  else m

/-- Whether a character may stand for itself. The other letter cases of Unicode are not known, so
that it may not where they are asked for. -/
def admitsLiteral (m : Mode) : Bool :=
  !(m.insensitive && m.unicode)

end Mode

/-- Drops blanks and comments, which last to the end of their line. -/
def dropLayout (inComment : Bool) : List Char → List Char
  | [] => []
  | c :: cs =>
    if inComment then dropLayout (c ≠ '\n') cs
    else if Text.isBlank c then dropLayout false cs
    else if c = '#' then dropLayout true cs
    else c :: cs

/-- Drops hyphens, with the blanks and comments around them in a verbose pattern, and counts
them. -/
def dropHyphens (m : Mode) (inComment : Bool) : List Char → Nat × List Char
  | [] => (0, [])
  | c :: cs =>
    if inComment then dropHyphens m (c ≠ '\n') cs
    else if m.verbose && Text.isBlank c then dropHyphens m false cs
    else if m.verbose && c = '#' then dropHyphens m true cs
    else if c = '-' then
      let (count, rest) := dropHyphens m false cs
      (count + 1, rest)
    else (0, c :: cs)

namespace Mode

/-- Drops what is skipped under the flags in force. -/
def skip (m : Mode) (cs : List Char) : List Char :=
  if m.verbose then dropLayout false cs else cs

/-- The character by which it is decided whether a hyphen makes a range. Blanks before it are
skipped, but of a comment its first character decides. -/
def peek? (m : Mode) (cs : List Char) : Option Char :=
  if m.verbose then
    match cs.dropWhile Text.isBlank with
    | '#' :: rest => (rest.dropWhile Text.isBlank).head?
    | rest => rest.head?
  else cs.head?

end Mode

end PairingSig.Pattern
