import PairingSig.Filter.Pattern.CharSet
import PairingSig.Filter.Pattern.Group

/-!
# Patterns

The regular expressions that a filter may give for the value of a field. No event is compared with
one; what matters is whether an expression is well formed. Counted repetitions are never so: their
closing brace would end the field.

- `Branch`, `Choice`: how deeply the parts read so far are nested;
- `scan`: reading an expression;
- `isWellFormed`: whether it can be read and is not nested too deeply.
-/

namespace PairingSig.Pattern

/-! ## Height -/

/-- The parts of one branch read so far: how many, the greatest height of those before the last, the
height of the last, and whether the last can be repeated. -/
structure Branch where
  parts : Nat
  before : Nat
  last : Nat
  repeatable : Bool
  deriving DecidableEq, Repr

namespace Branch

def empty : Branch :=
  ⟨0, 0, 0, false⟩

def add (b : Branch) (height : Nat) (repeatable : Bool) : Branch :=
  ⟨b.parts + 1, max b.before b.last, height, repeatable⟩

def repeatLast (b : Branch) : Branch :=
  { b with last := b.last + 1 }

/-- The height of a branch. Several parts make one part above each of them. -/
def height (b : Branch) : Nat :=
  if b.parts ≤ 1 then b.last else max b.before b.last + 1

end Branch

/-- Branches to choose from: the greatest height of the finished ones, if there are any, and the one
that is being read. -/
structure Choice where
  finished : Option Nat
  branch : Branch
  deriving DecidableEq, Repr

namespace Choice

def empty : Choice :=
  ⟨none, .empty⟩

def add (c : Choice) (height : Nat) (repeatable : Bool) : Choice :=
  { c with branch := c.branch.add height repeatable }

def repeatLast (c : Choice) : Choice :=
  { c with branch := c.branch.repeatLast }

def next (c : Choice) : Choice :=
  ⟨some (max (c.finished.getD 0) c.branch.height), .empty⟩

/-- The height of a choice. Several branches make one part above each of them. -/
def height (c : Choice) : Nat :=
  match c.finished with
  | none => c.branch.height
  | some h => max h c.branch.height + 1

end Choice

/-! ## Reading -/

/-- Whether an atom may stand in an expression. -/
def isExpression (m : Mode) : Atom → Bool
  | .literal _ => m.admitsLiteral
  | _ => true

/-- Reads the rest of an expression and gives the height of the whole. `outer` holds what to return
to at the end of each open group, and `names` the names of the groups so far. -/
def scan : Nat → Mode → List (Mode × Choice) → List (List Char) → Choice → List Char → Option Nat
  | 0, _, _, _, _, _ => none
  | fuel + 1, m, outer, names, c, cs =>
    match m.skip cs with
    | [] => if outer.isEmpty then some c.height else none
    | '(' :: rest =>
      match groupHead? m rest with
      -- Flags without a group hold from here to the end of the group around them.
      | some (.flags inner, rest) => scan fuel inner outer names (c.add 0 false) rest
      | some (.group inner none, rest) => scan fuel inner ((m, c) :: outer) names .empty rest
      | some (.group inner (some name), rest) =>
        if names.contains name then none
        else scan fuel inner ((m, c) :: outer) (name :: names) .empty rest
      | none => none
    | ')' :: rest =>
      match outer with
      | [] => none
      -- The flags are those of before the group again, and the group is one part.
      | (m, around) :: outer => scan fuel m outer names (around.add (c.height + 1) true) rest
    | '|' :: rest => scan fuel m outer names c.next rest
    | '[' :: rest =>
      match charSet? m rest with
      | some (height, rest) => scan fuel m outer names (c.add height true) rest
      | none => none
    | '\\' :: rest =>
      match escape? m rest with
      | some (atom, rest) =>
        if isExpression m atom then scan fuel m outer names (c.add 0 true) rest else none
      | none => none
    | sign :: rest =>
      if sign = '*' || sign = '+' || sign = '?' then
        -- A repetition may be marked as the shortest one.
        if c.branch.repeatable then
          scan fuel m outer names c.repeatLast (if rest.head? = some '?' then rest.tail else rest)
        else none
      else if sign = '\x7b' then none
      -- The dot stands for any byte here, and so for some that are no character.
      else if sign = '.' && !m.unicode then none
      else if sign = '.' || sign = '^' || sign = '$' || m.admitsLiteral then
        scan fuel m outer names (c.add 0 true) rest
      else none

def heightLimit : Nat :=
  250

/-- Whether a text is a well-formed expression. Each step of the scan reads a character, so that
there are enough steps. -/
def isWellFormed (cs : List Char) : Bool :=
  match scan (cs.length + 1) .initial [] [] .empty cs with
  | some height => height ≤ heightLimit
  | none => false

end PairingSig.Pattern
