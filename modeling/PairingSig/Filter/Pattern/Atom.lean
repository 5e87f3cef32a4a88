import PairingSig.Filter.Pattern.Mode

/-!
# Atoms of a pattern

The parts of a pattern that have no parts of their own, and the escapes that write them. Classes
that need a table of Unicode (digits, word characters and blanks of all scripts, and the borders of
words) are not available.
-/

namespace PairingSig.Pattern

/-- What a part of a pattern without parts of its own stands for. -/
inductive Atom where
  | literal (code : Nat)
  | charClass
  | assertion
  deriving DecidableEq, Repr

/-- The value of a hexadecimal digit. -/
def hexValue? (c : Char) : Option Nat :=
  if c.isDigit then some (c.toNat - 48)
  else if 'a' ≤ c ∧ c ≤ 'f' then some (c.toNat - 87)
  else if 'A' ≤ c ∧ c ≤ 'F' then some (c.toNat - 55)
  else none

/-- Reads a number of hexadecimal digits, after those that have the value `read`. -/
def hexNumber? (m : Mode) : Nat → Nat → List Char → Option (Nat × List Char)
  | 0, read, cs => some (read, cs)
  | count + 1, read, cs =>
    match m.skip cs with
    | [] => none
    | c :: rest =>
      match hexValue? c with
      | none => none
      | some d => hexNumber? m count (16 * read + d) rest

/-- Whether a number is the code point of a character. -/
def isCodePoint (n : Nat) : Bool :=
  n < 0xd800 || (0xe000 ≤ n && n < 0x110000)

/-- A sign of ASCII, which an escape makes stand for itself. -/
def isSign (c : Char) : Bool :=
  c.toNat < 128 && !c.isAlphanum && c ≠ '<' && c ≠ '>'

/-- The code point of a control character that has a letter. -/
def controlCode? (c : Char) : Option Nat :=
  if c = 'a' then some 7
  else if c = 't' then some 9
  else if c = 'n' then some 10
  else if c = 'v' then some 11
  else if c = 'f' then some 12
  else if c = 'r' then some 13
  else none

/-- Reads what follows a backslash. -/
def escape? (m : Mode) : List Char → Option (Atom × List Char)
  | [] => none
  | c :: cs =>
    if c = 'x' then
      -- Where characters are bytes, those beyond ASCII are none.
      match hexNumber? m 2 0 cs with
      | some (n, rest) => if m.unicode || n < 128 then some (.literal n, rest) else none
      | none => none
    else if c = 'u' || c = 'U' then
      match hexNumber? m (if c = 'u' then 4 else 8) 0 cs with
      | some (n, rest) => if isCodePoint n then some (.literal n, rest) else none
      | none => none
    else if isSign c then some (.literal c.toNat, cs)
    else if c = 'A' || c = 'z' then some (.assertion, cs)
    else if ['d', 's', 'w'].contains c then if m.unicode then none else some (.charClass, cs)
    else if ['b', 'B', '<', '>'].contains c then if m.unicode then none else some (.assertion, cs)
    else (controlCode? c).map fun n => (.literal n, cs)

end PairingSig.Pattern
