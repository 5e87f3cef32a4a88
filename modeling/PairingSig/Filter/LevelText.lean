import PairingSig.Event
import PairingSig.Text.LetterCase

/-!
# Levels in filters

A filter gives a level by its name, in any letter case, or by its rank.
-/

namespace PairingSig.Level

/-- A level by its name, in any letter case. -/
def ofName? (cs : List Char) : Option Level :=
  let name := Text.lower cs
  if name = "off" then some .off
  else if name = "error" then some .error
  else if name = "warn" then some .warn
  else if name = "info" then some .info
  else if name = "debug" then some .debug
  else if name = "trace" then some .trace
  else none

def ofRank? : Nat → Option Level
  | 0 => some .off
  | 1 => some .error
  | 2 => some .warn
  | 3 => some .info
  | 4 => some .debug
  | 5 => some .trace
  | _ => none

/-- A level by its rank in decimal digits, before which a plus sign may stand. -/
def ofDigits? (cs : List Char) : Option Level :=
  let digits := if cs.head? = some '+' then cs.tail else cs
  if digits.isEmpty || !digits.all Char.isDigit then none
  else ofRank? (digits.foldl (fun n c => 10 * n + (c.toNat - 48)) 0)

/-- A level by its name or its rank. -/
def ofText? (cs : List Char) : Option Level :=
  match ofDigits? cs with
  | some l => some l
  | none => ofName? cs

end PairingSig.Level
