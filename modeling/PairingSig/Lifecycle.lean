import PairingSig.Filter
import PairingSig.Hex
import PairingSig.Scheme
import PairingSig.Text.Blank
import PairingSig.Text.Quoted

/-!
# The life of a key

The command line program: from a seed in hexadecimal and a message it derives a key, prints its
public key, signs the message, prints the signature, and verifies it. Events that the environment's
filter shows are printed between these lines, where they happen.
-/

namespace PairingSig.Lifecycle

/-- What a run leaves behind: its exit code and the lines of its two streams. -/
structure Report where
  exitCode : Nat
  output : List String
  errors : List String
  deriving DecidableEq, Repr

def Report.success (output : List String) : Report :=
  ⟨0, output, []⟩

def Report.failure (output errors : List String) : Report :=
  ⟨1, output, errors⟩

def complaint (f : Fault) : List String :=
  ["Error: " ++ f.message]

/-- The complaint about missing arguments. -/
def usage : List String :=
  ["Error: usage: key_lifecycle <seed-hex> <message>"]

def hexDefect : Hex.Defect → String
  | .oddLength => "Odd number of digits"
  | .badDigit byte position =>
    "Invalid character " ++ Text.quoteChar (Char.ofNat byte.toNat) ++ " at position "
      ++ toString position

/-- The complaint about a seed that is not hexadecimal. -/
def seedComplaint (d : Hex.Defect) : List String :=
  ["Error: seed must be hex encoded", "", "Caused by:", "    " ++ hexDefect d]

/-- Reads a seed from an argument, blanks around it aside. -/
def readSeed (argument : String) : Except Hex.Defect Bytes :=
  Hex.decode (Bytes.ofText (String.ofList (Text.trim argument.toList)))

variable (G : PairingGroups)

/-- The lines of the events that a filter shows. -/
def shownLines (filter : Filter) (events : List Event) : List String :=
  (events.filter filter.shows).map Event.line

/-- The run from a seed on. -/
def fromSeed (filter : Filter) (seed : Bytes) (message : String) : Report :=
  let text := Bytes.ofText message
  let shown := shownLines filter
  let generated := Scheme.generateKey seed
  match generated.result with
  | .error f => .failure (shown generated.events) (complaint f)
  | .ok key =>
    let derived := Scheme.derivePublicKey G key
    -- The events of an operation come before the line of what it yields.
    let output := shown (generated.events ++ derived.events)
    match derived.result with
    | .error f => .failure output (complaint f)
    | .ok publicKey =>
      let signed := Scheme.sign G key text
      let output := output ++ ["public key: " ++ Hex.encode publicKey] ++ shown signed.events
      match signed.result with
      | .error f => .failure output (complaint f)
      | .ok signature =>
        let verified := Scheme.verify G publicKey text signature
        let output :=
          output ++ ["signature:  " ++ Hex.encode signature] ++ shown verified.events
        match verified.result with
        | .error f => .failure output (complaint f)
        | .ok () => .success (output ++ ["signature verified for message " ++ Text.quote message])

/-- The run with the given arguments, the filter setting of the environment first. -/
def run (setting : Option String) : List String → Report
  | argument :: message :: _ =>
    match readSeed argument with
    | .error d => .failure [] (seedComplaint d)
    | .ok seed => fromSeed G (.ofEnvironment setting) seed message
  | _ => .failure [] usage

end PairingSig.Lifecycle
