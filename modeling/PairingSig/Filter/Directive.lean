import PairingSig.Filter.FieldValue
import PairingSig.Filter.LevelText
import PairingSig.Text.Alphanumeric
import PairingSig.Text.ByteRange

/-!
# Directives

One part of a filter. A directive says up to which level the events of a target are shown, either
all of them or only those with a certain field.

Layers:
- `Scope`, `Directive`: what a directive says, and to which events it applies;
- `Directive.mostSpecific?`: which of several decides;
- `Scope.ofLaidOut?`, `Directive.ofText?`: reading `target[span]=level`, where each part may be
  missing.
-/

namespace PairingSig

/-- Which events of its target a directive is about. -/
inductive Scope where
  /-- All of them. -/
  | all
  /-- Those that have a field of the given name. -/
  | field (name : List Char)
  /-- Those that happen within certain spans. No event of this library happens within one. -/
  | span
  deriving DecidableEq, Repr

/-- Up to which level the events of a target are shown. -/
structure Directive where
  target : List Char
  scope : Scope
  level : Level
  deriving DecidableEq, Repr

/-! ## Applying -/

def Scope.covers (e : Event) : Scope → Bool
  | .all => true
  | .field name => e.fields.any fun f => f.toList = name
  | .span => false

/-- Whether a directive applies to an event: its target begins the event's target, and its scope
covers the event. -/
def Directive.appliesTo (d : Directive) (e : Event) : Bool :=
  d.target.isPrefixOf e.target.toList && d.scope.covers e

/-- Whether a text does not come before another one in the order of code points. -/
def notBefore : List Char → List Char → Bool
  | _, [] => true
  | [], _ :: _ => false
  | a :: as, b :: bs => b.toNat < a.toNat || (a = b && notBefore as bs)

/-- Whether a scope is at least as specific as another one: a field is more specific than none, and
of two fields the one whose name comes later. -/
def Scope.atLeast : Scope → Scope → Bool
  | .field a, .field b => notBefore a b
  | .all, .field _ => false
  | _, _ => true

/-- Whether a directive is at least as specific as another one: the length of its target decides,
and its scope if the targets are equally long. -/
def Directive.atLeast (d d' : Directive) : Bool :=
  d'.target.length < d.target.length ||
    (d'.target.length = d.target.length && d.scope.atLeast d'.scope)

def Directive.mostSpecific? : List Directive → Option Directive
  | [] => none
  | d :: rest =>
    match mostSpecific? rest with
    | none => some d
    | some best => if d.atLeast best then some d else some best

/-! ## Reading -/

/--
A text laid out for reading: the characters of the trimmed text with their places in bytes. Signs
are looked for there; what stands between them is taken from the same places of the whole text. That
makes a difference only where the text begins with blanks: such a text can give a target or a scope,
which then fits no event, but no level.
-/
abbrev LaidOut := List (Char × Nat)

namespace LaidOut

def ofText (cs : List Char) : LaidOut :=
  Text.placed 0 (Text.trim cs)

/-- The stretch before the first of some signs, and what begins with that sign. -/
def splitAt (signs : List Char) (xs : LaidOut) : LaidOut × LaidOut :=
  (xs.takeWhile fun x => !signs.contains x.1, xs.dropWhile fun x => !signs.contains x.1)

end LaidOut

namespace Scope

/-- Reads a field, by its name alone or with a value after an equals sign. Values are compared
within spans only. -/
def ofField? (cs : List Char) : Option Scope :=
  match cs.dropWhile (· ≠ '=') with
  | [] => if cs.isEmpty then none else some (.field cs)
  -- A second equals sign ends the value.
  | _ :: value => if FieldValue.isValid (value.takeWhile (· ≠ '=')) then some .span else none

/-- Reads a scope of the text `cs` after its opening bracket, and gives what follows the closing
one: the name of a span, a field in braces, or both. -/
def ofLaidOut? (cs : List Char) (xs : LaidOut) : Option (Scope × LaidOut) :=
  let (name, rest) := LaidOut.splitAt [']', '\x7b'] xs
  match rest with
  | [] => none
  | (sign, first) :: rest =>
    -- A name alone, even an empty one, asks for a span.
    if sign = ']' then some (.span, rest)
    else
      match (LaidOut.splitAt ['\x7d'] rest).2 with
      | (_, last) :: (']', _) :: rest =>
        ((Text.byteRange? (first + 1) last cs).bind ofField?).map fun s =>
          (if name.isEmpty then s else .span, rest)
      | _ => none

end Scope

/-- Whether a stretch can begin a directive: with a letter or a number of any script, `_`, `:` or
`-`. -/
def startsTarget : LaidOut → Bool
  | [] => false
  | (c, _) :: _ => Text.isAlphanumeric c || c = '_' || c = ':' || c = '-'

namespace Directive

/-- A text without signs: a level for all targets, or else a target of which all is shown. -/
def ofBare (cs : List Char) : Directive :=
  match Level.ofText? cs with
  | some l => ⟨[], .all, l⟩
  | none => ⟨cs, .all, .trace⟩

/-- What stands after an equals sign: a level, or nothing, which shows everything. -/
def levelAfter? (cs : List Char) : Option Level :=
  if cs.isEmpty then some .trace else Level.ofText? cs

/-- Reads the level after the equals sign at a place of a text. -/
def levelAt? (place : Nat) (cs : List Char) : Option Level :=
  (Text.dropBytes? (place + 1) cs).bind levelAfter?

/--
Reads a directive: a level, or a target, a scope in brackets or both, with a level after an equals
sign. Blanks after the level or around a bare text belong to it: no level has any, and a target that
has some is the target of no event.
-/
def ofText? (cs : List Char) : Option Directive :=
  let (target, rest) := LaidOut.splitAt ['=', '['] (LaidOut.ofText cs)
  match rest with
  | [] => if startsTarget target then some (ofBare cs) else none
  | (sign, place) :: rest =>
    -- Only a scope may stand without a target before it.
    if !startsTarget target && !(target.isEmpty && sign = '[') then none
    else
      match Text.byteRange? 0 place cs with
      | none => none
      | some target =>
        if sign = '=' then (levelAt? place cs).map fun l => ⟨target, .all, l⟩
        else
          match Scope.ofLaidOut? cs rest with
          -- Behind a scope there is a level or the end of the text.
          | some (s, []) => some ⟨target, s, .trace⟩
          | some (s, ('=', place) :: _) => (levelAt? place cs).map fun l => ⟨target, s, l⟩
          | _ => none

end Directive

end PairingSig
