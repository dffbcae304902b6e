import SearchTuning.CommandLine

/-!
# The program

Reads the arguments, writes what they come to, and ends with its exit code.
-/

namespace SearchTuning.CommandLine

/-- A text without surrogates as a string. -/
def string (t : Text) : String := String.ofList (t.map fun c => Char.ofNat c.val)

/-- The text that tells what is written as an error. -/
def Complaint.told : Complaint → Text
  | .text t => t
  | .trace e => Output.utf8.spelled (e.message ++ Text.ofString "\n")

/-- What the program does with its arguments on the usual platform. -/
def outcome (args : List String) : Outcome :=
  letI := Platform.usual
  run .utf8 (args.map Text.ofString)

end SearchTuning.CommandLine

open SearchTuning CommandLine

def main (args : List String) : IO UInt32 := do
  let outcome := outcome args
  IO.print (string outcome.out)
  IO.eprint (string outcome.err.told)
  pure outcome.code.toUInt32
