import PairingSig.Bls12381
import PairingSig.Lifecycle

/-!
# The command line

Runs the life of a key on the arguments given, over the standard groups.
-/

/-- Prints what the run leaves behind and ends with its exit code. -/
def main (arguments : List String) : IO UInt32 := do
  let setting ← IO.getEnv "RUST_LOG"
  let report := PairingSig.Lifecycle.run PairingSig.standardGroups setting arguments
  report.output.forM fun line => IO.println line
  report.errors.forM fun line => IO.eprintln line
  return UInt32.ofNat report.exitCode
