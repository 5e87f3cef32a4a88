import PairingSig.Filter.Pattern.Atom

/-!
# Sets of characters

The sets of a pattern, written in brackets: characters, ranges, named classes and further sets, with
the signs of the intersection, the difference and the symmetric difference between them. What is in
a set does not matter, only whether it can be read and how deeply its parts are nested.

Where characters are bytes, a complement would have every byte beyond ASCII, and these are no
characters; hence there are no complements there, however little of one an operation would leave.

- `Members`, `OpenSet`: the heights of a set that is being read;
- `setMember?`, `namedClass?`, `openSet?`: reading the parts of a set;
- `charSet?`: reading a whole set.
-/

namespace PairingSig.Pattern

/-- Members of a set that stand side by side: how many, and the greatest height of one. -/
structure Members where
  count : Nat
  height : Nat
  deriving DecidableEq, Repr

namespace Members

def add (s : Members) (height : Nat) : Members :=
  ⟨s.count + 1, max s.height height⟩

/-- The height of all members. Several members make one part above each of them. -/
def total (s : Members) : Nat :=
  if s.count ≤ 1 then s.height else s.height + 1

end Members

/-- A set that is being read: the height of what stands left of the last operation sign, and the
members after that sign. -/
structure OpenSet where
  left : Option Nat
  members : Members
  deriving DecidableEq, Repr

namespace OpenSet

def add (s : OpenSet) (height : Nat) : OpenSet :=
  { s with members := s.members.add height }

/-- The height of what has been read. An operation is a part above both of its sides. -/
def height (s : OpenSet) : Nat :=
  match s.left with
  | none => s.members.total
  | some left => max left s.members.total + 1

/-- Reads an operation sign. All operations are carried out from left to right. -/
def operate (s : OpenSet) : OpenSet :=
  ⟨some s.height, ⟨0, 0⟩⟩

end OpenSet

/-! ## Reading -/

/-- Whether an atom may be a member of a set. -/
def isMember (m : Mode) : Atom → Bool
  | .literal n => m.admitsLiteral && (m.unicode || n < 128)
  | .charClass => true
  | .assertion => false

/-- Reads one atom of a set. -/
def setAtom? (m : Mode) : List Char → Option (Atom × List Char)
  | [] => none
  | c :: cs => if c = '\\' then escape? m cs else some (.literal c.toNat, cs)

/-- Reads a member of a set: an atom, or a range between two characters. A hyphen before another one
or before a closing bracket makes no range. -/
def setMember? (m : Mode) (cs : List Char) : Option (List Char) :=
  match setAtom? m cs with
  | none => none
  | some (first, rest) =>
    match m.skip rest with
    | '-' :: after =>
      if m.peek? after = some ']' || m.peek? after = some '-' then
        if isMember m first then some ('-' :: after) else none
      else
        match first, setAtom? m (m.skip after) with
        | .literal a, some (.literal b, rest) =>
          if a ≤ b && isMember m (.literal a) && isMember m (.literal b) then some rest else none
        | _, _ => none
    | rest => if isMember m first then some rest else none

def classNames : List String :=
  ["alnum", "alpha", "ascii", "blank", "cntrl", "digit", "graph", "lower", "print", "punct",
    "space", "upper", "word", "xdigit"]

/-- Reads the name of a class of ASCII characters or of its complement, after its opening bracket,
and tells whether it is a complement. -/
def namedClass? : List Char → Option (Bool × List Char)
  | ':' :: cs =>
    let negated := cs.head? = some '^'
    let cs := if negated then cs.tail else cs
    match cs.dropWhile (· ≠ ':') with
    | ':' :: ']' :: rest =>
      if classNames.contains (String.ofList (cs.takeWhile (· ≠ ':'))) then some (negated, rest)
      else none
    | _ => none
  | _ => none

/-- Reads the beginning of a set, after its opening bracket: a complement sign, and the hyphens or
the closing bracket that stand for themselves there. -/
def openSet? (m : Mode) (cs : List Char) : Option (OpenSet × List Char) :=
  let cs := m.skip cs
  let negated := cs.head? = some '^'
  let cs := if negated then cs.tail else cs
  let (count, rest) := dropHyphens m false cs
  let literals := count + (if count = 0 && rest.head? = some ']' then 1 else 0)
  if (negated && !m.unicode) || (literals ≠ 0 && !m.admitsLiteral) then none
  else some (⟨none, ⟨literals, 0⟩⟩, rest.drop (literals - count))

/-- Reads the members of a set up to its closing bracket; `outer` holds the sets around it. Gives
the height of the outermost set. -/
def setBody? (m : Mode) : Nat → OpenSet → List OpenSet → List Char → Option (Nat × List Char)
  | 0, _, _, _ => none
  | fuel + 1, s, outer, cs =>
    match m.skip cs with
    | [] => none
    -- A class is a member without parts; any other bracket opens a set within this one.
    | '[' :: rest =>
      match namedClass? rest with
      | some (negated, rest) =>
        if (negated && !m.unicode) || !m.admitsLiteral then none
        else setBody? m fuel (s.add 0) outer rest
      | none =>
        match openSet? m rest with
        | some (inner, rest) => setBody? m fuel inner (s :: outer) rest
        | none => none
    -- What is closed is the whole set, or a member of the one around it.
    | ']' :: rest =>
      match outer with
      | [] => some (s.height + 1, rest)
      | around :: outer => setBody? m fuel (around.add (s.height + 1)) outer rest
    | '&' :: '&' :: rest => setBody? m fuel s.operate outer rest
    | '-' :: '-' :: rest => setBody? m fuel s.operate outer rest
    | '~' :: '~' :: rest => setBody? m fuel s.operate outer rest
    | cs =>
      match setMember? m cs with
      | some rest => setBody? m fuel (s.add 0) outer rest
      | none => none

/-- Reads a set of characters, after its opening bracket, and gives its height. -/
def charSet? (m : Mode) (cs : List Char) : Option (Nat × List Char) :=
  (openSet? m cs).bind fun (s, rest) => setBody? m (rest.length + 1) s [] rest

end PairingSig.Pattern
