import Formula.CommandLine

/-!
# The program

Reads files and prints; everything else is in `Formula.CommandLine`.
-/

namespace Formula

/-- The text of a file, if it can be read. -/
def readFile? (path : String) : IO (Option String) :=
  try return some (← IO.FS.readFile path) catch _ => return none

end Formula

/-- Runs the command line. -/
def main (arguments : List String) : IO UInt32 := do
  let outcome ← Formula.CommandLine.run Formula.readFile? arguments
  IO.print outcome.stdout
  IO.eprint outcome.stderr
  return outcome.code
