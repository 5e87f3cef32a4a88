import PairingSig.Filter.Directive

/-!
# Filters of events

A filter is a list of directives. Of the directives that apply to an event, the most specific one
decides: it shows the event up to its level. An event to which none applies is not shown.

Layers:
- `Filter.shows`: whether an event is shown;
- `Filter.ofDirectives`: directives where a later one replaces an earlier one for the same events;
- `Filter.parse`, `Filter.parseStrict?`: a comma-separated list.
-/

namespace PairingSig

/-- A filter of events. -/
structure Filter where
  directives : List Directive
  deriving DecidableEq, Repr

/-! ## Showing -/

namespace Filter

def applicable (f : Filter) (e : Event) : List Directive :=
  f.directives.filter fun d => d.appliesTo e

def deciding? (f : Filter) (e : Event) : Option Directive :=
  Directive.mostSpecific? (f.applicable e)

def shows (f : Filter) (e : Event) : Bool :=
  match f.deciding? e with
  | none => false
  | some d => decide (e.level.rank ≤ d.level.rank)

end Filter

/-! ## Reading -/

/-- The parts of a text between commas; there is at least one. -/
def commaParts : List Char → List (List Char)
  | [] => [[]]
  | c :: cs =>
    if c = ',' then [] :: commaParts cs
    else
      match commaParts cs with
      | [] => [[c]]
      | part :: rest => (c :: part) :: rest

/-- The parts of a text between commas that are not empty. -/
def directiveTexts (text : String) : List (List Char) :=
  (commaParts text.toList).filter fun part => !part.isEmpty

namespace Filter

/-- Adds a directive, in place of one for the same target and scope. -/
def add (f : Filter) (d : Directive) : Filter :=
  ⟨f.directives.filter (fun d' => !(d'.target = d.target && d'.scope = d.scope)) ++ [d]⟩

/-- The filter of the given directives; without any, it shows errors only. -/
def ofDirectives (ds : List Directive) : Filter :=
  if ds.isEmpty then ⟨[⟨[], .all, .error⟩]⟩ else ds.foldl add ⟨[]⟩

/-- The filter that shows the events of all targets up to a level. -/
def upTo (level : Level) : Filter :=
  ⟨[⟨[], .all, level⟩]⟩

/-- Reads a list of directives, leaving out what is none. -/
def parse (text : String) : Filter :=
  ofDirectives ((directiveTexts text).filterMap Directive.ofText?)

/-- Reads a list of directives, unless one of them is none. -/
def parseStrict? (text : String) : Option Filter :=
  ((directiveTexts text).mapM Directive.ofText?).map ofDirectives

/-- The filter that an environment asks for; the default shows informative events. -/
def ofEnvironment (setting : Option String) : Filter :=
  (setting.bind parseStrict?).getD (upTo .info)

end Filter

end PairingSig
