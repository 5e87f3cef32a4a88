import PairingSig.Filter
import PairingSig.Request

/-!
# The journal of a process

A process may ask several times for its events to be logged. Each time a filter is chosen: the one
given, else that of the environment, else the default. The first one is installed, and later ones
find it in force. Without any, nothing is logged.
-/

namespace PairingSig.Journal

/-- The filter that one wish chooses. -/
def chosen (setting : Option String) : Option String → Filter
  | some text => .parse text
  | none => .ofEnvironment setting

/-- The filter in force after one more wish. -/
def install (setting : Option String) (inForce? : Option Filter) (wish : Option String) :
    Option Filter :=
  let filter := chosen setting wish
  match inForce? with
  | none => some filter
  -- A second installation is refused, and nobody is told.
  | some installed => some installed

/-- The filter in force after all wishes, if there is one. -/
def inForce? (setting : Option String) (wishes : List (Option String)) : Option Filter :=
  wishes.foldl (install setting) none

/-- The lines logged while requests are answered. -/
def lines (G : PairingGroups) (setting : Option String) (wishes : List (Option String))
    (requests : List Request) : List String :=
  match inForce? setting wishes with
  | none => []
  | some filter => ((Request.events G requests).filter filter.shows).map Event.line

end PairingSig.Journal
