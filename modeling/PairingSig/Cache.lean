/-!
# A bounded cache

A cache remembers at most `capacity` entries and gives up the one that has gone longest without
being used. Its entries are kept in a list, the most recently used one first.
-/

namespace PairingSig

/-- Entries with distinct keys, most recently used first. -/
structure Cache (κ α : Type) where
  capacity : Nat
  entries : List (κ × α)

namespace Cache

variable {κ α : Type} [DecidableEq κ]

def empty (capacity : Nat) : Cache κ α :=
  ⟨capacity, []⟩

def size (c : Cache κ α) : Nat :=
  c.entries.length

/-- The entries of other keys, in order. -/
def others (key : κ) (entries : List (κ × α)) : List (κ × α) :=
  entries.filter fun e => e.1 ≠ key

/-- The value of a key, and the cache in which that key is the most recently used one. -/
def use? (c : Cache κ α) (key : κ) : Option (α × Cache κ α) :=
  match c.entries.find? fun e => e.1 = key with
  | none => none
  | some e => some (e.2, ⟨c.capacity, e :: others key c.entries⟩)

/-- Adds an entry as the most recently used one; what exceeds the capacity is given up. -/
def insert (c : Cache κ α) (key : κ) (value : α) : Cache κ α :=
  ⟨c.capacity, ((key, value) :: others key c.entries).take c.capacity⟩

end Cache

end PairingSig
