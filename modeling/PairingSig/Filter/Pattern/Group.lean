import PairingSig.Filter.Pattern.Mode
import PairingSig.Text.Alphanumeric

/-!
# Groups of a pattern

What may follow an opening parenthesis: flags, the name of the group, or its contents at once.
-/

namespace PairingSig.Pattern

/-- What an opening parenthesis begins: a change of flags, or a group with flags of its own. -/
inductive GroupHead where
  | flags (mode : Mode)
  | group (mode : Mode) (name : Option (List Char))
  deriving DecidableEq, Repr

/-- The letters of the flags. -/
def flagLetters : List Char :=
  ['i', 'm', 's', 'U', 'u', 'R', 'x']

/-- Reads flags up to the sign that ends them; those after a minus sign are cleared. No letter
comes twice, `seen` holds those read so far, last one first. -/
def flags? (m : Mode) (seen : List Char) : List Char → Option (GroupHead × List Char)
  | [] => none
  | c :: cs =>
    if c = ':' then if seen.head? = some '-' then none else some (.group m none, cs)
    else if c = ')' then
      if seen.isEmpty || seen.head? = some '-' then none else some (.flags m, cs)
    else if seen.contains c then none
    else if c = '-' then flags? m (c :: seen) cs
    else if flagLetters.contains c then
      flags? (m.set c (!seen.contains '-')) (c :: seen) cs
    else none

/-- Whether a text names a group: a letter or `_`, and letters, numbers and some signs after it. -/
def isGroupName : List Char → Bool
  | [] => false
  | c :: cs =>
    (c = '_' || Text.isAlphabetic c) &&
      cs.all fun d => Text.isAlphanumeric d || ['_', '.', '[', ']'].contains d

/-- Reads the name of a group up to the sign that ends it. -/
def groupName? (m : Mode) (cs : List Char) : Option (GroupHead × List Char) :=
  let name := cs.takeWhile (· ≠ '>')
  match cs.dropWhile (· ≠ '>') with
  | [] => none
  | _ :: rest => if isGroupName name then some (.group m (some name), rest) else none

/-- Reads the beginning of a group, after its opening parenthesis. Groups that look ahead or behind
are none. -/
def groupHead? (m : Mode) (cs : List Char) : Option (GroupHead × List Char) :=
  match m.skip cs with
  | '?' :: 'P' :: '<' :: rest => groupName? m rest
  | '?' :: '<' :: rest =>
    if rest.head? = some '=' || rest.head? = some '!' then none else groupName? m rest
  | '?' :: rest => flags? m [] rest
  | rest => some (.group m none, rest)

end PairingSig.Pattern
