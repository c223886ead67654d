import LiveBinding.Command.Run

/-!
# The program

Reads the files that a command line names, runs the command, and prints what it says.
-/

namespace LiveBinding

/-- Read a file. -/
def readFile (path : String) : IO (Except Command.FileFault String) :=
  try
    return .ok (← IO.FS.readFile path)
  catch
    | .noFileOrDirectory .. => return .error .missing
    | error => return .error (.unreadable (toString error))

/-- Read the files that a command line names. -/
def readFiles (words : List String) : IO (List (String × Except Command.FileFault String)) :=
  match Command.Invocation.read words with
  | .error _ => return []
  | .ok invocation => invocation.paths.mapM fun path => return (path, ← readFile path)

end LiveBinding

open LiveBinding in
/-- Run the program on its arguments. -/
def main (words : List String) : IO UInt32 := do
  let contents ← readFiles words
  let files : Command.Files := fun path => (contents.lookup path).getD (.error .missing)
  let outcome := Command.run files words
  (← IO.getStdout).putStr (Command.Outcome.linesText outcome.output)
  (← IO.getStderr).putStr (Command.Outcome.linesText outcome.complaints)
  return outcome.code.toUInt32
