import PairingSig.Event

/-!
# Outcomes

An operation answers with a result or a fault, and with the events it reported on the way.
-/

namespace PairingSig

/-- The result of an operation together with its events, first one first. -/
structure Outcome (α : Type) where
  result : Except Fault α
  events : List Event

namespace Outcome

variable {α β : Type}

def ok (a : α) (events : List Event) : Outcome α :=
  ⟨.ok a, events⟩

def fail (f : Fault) (events : List Event) : Outcome α :=
  ⟨.error f, events⟩

def silent (r : Except Fault α) : Outcome α :=
  ⟨r, []⟩

def map (g : α → β) (o : Outcome α) : Outcome β :=
  ⟨o.result.map g, o.events⟩

/-- Puts events before those of an outcome. -/
def after (events : List Event) (o : Outcome α) : Outcome α :=
  ⟨o.result, events ++ o.events⟩

@[simp] theorem result_ok (a : α) (es : List Event) : (ok a es).result = .ok a := rfl

@[simp] theorem events_ok (a : α) (es : List Event) : (ok a es).events = es := rfl

@[simp] theorem result_fail (f : Fault) (es : List Event) :
    (fail f es : Outcome α).result = .error f := rfl

@[simp] theorem events_fail (f : Fault) (es : List Event) :
    (fail f es : Outcome α).events = es := rfl

@[simp] theorem result_silent (r : Except Fault α) : (silent r).result = r := rfl

@[simp] theorem events_silent (r : Except Fault α) : (silent r).events = [] := rfl

@[simp] theorem result_map (g : α → β) (o : Outcome α) : (o.map g).result = o.result.map g := rfl

@[simp] theorem events_map (g : α → β) (o : Outcome α) : (o.map g).events = o.events := rfl

@[simp] theorem result_after (es : List Event) (o : Outcome α) :
    (o.after es).result = o.result := rfl

@[simp] theorem events_after (es : List Event) (o : Outcome α) :
    (o.after es).events = es ++ o.events := rfl

end Outcome

end PairingSig
