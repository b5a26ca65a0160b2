import InterfaceDocs.Command.Run

/-!
# The program

Reads the files that the command looks at, runs it, and prints what it leaves behind.
-/

/-- The content of a file, if it can be read. -/
def readFile? (file : String) : IO (Option String) := do
  try
    return some (← IO.FS.readFile file)
  catch _ =>
    return none

def main (arguments : List String) : IO UInt32 := do
  let files ← (InterfaceDocs.Command.filesOf arguments).mapM fun file => do
    return (file, ← readFile? file)
  let outcome := InterfaceDocs.Command.run (fun file => (files.lookup file).join) arguments
  for message in outcome.messages do
    IO.eprintln message
  IO.print outcome.output
  return outcome.exit
