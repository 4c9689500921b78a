import SqlAdapter.CommandLine.Run

/-!
# The program

Runs one command line on a new database in memory.
-/

set_option autoImplicit false

namespace SqlAdapter.CommandLine

/-- The content of a file, if it can be read. -/
def contentOf (path : String) : IO (Option ByteArray) := do
  try
    let bytes ← IO.FS.readBinFile path
    pure (some bytes)
  catch _ => pure none

def outcomeOf (arguments : List String) : IO Outcome := do
  match parse arguments with
  | .error stop => pure (.ofStop stop)
  | .ok i =>
    let content ← match i.request with
      | .configure path => contentOf path
      | _ => pure none
    pure (i.run (fun _ => content) .sqlite).1

end SqlAdapter.CommandLine

def main (arguments : List String) : IO UInt32 := do
  let outcome ← SqlAdapter.CommandLine.outcomeOf arguments
  IO.print outcome.output
  match outcome with
  | .failed e => IO.eprintln (SqlAdapter.CommandLine.reportedLine e)
  | _ => pure ()
  pure (UInt32.ofNat outcome.exitCode)
