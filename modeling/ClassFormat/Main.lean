import ClassFormat.CommandLine.Session

/-!
# The program

Runs the command line on the files of the disk.
-/

namespace ClassFormat

/-- A failure of the system as a fault of a file. -/
def FileFault.ofSystem : IO.Error → FileFault
  | .noFileOrDirectory .. => .missing
  | .inappropriateType _ 20 _ => .notFolder
  | .inappropriateType .. => .isFolder
  | .invalidArgument _ 36 _ => .nameTooLong
  | error => .other (toString error)

/-- Runs an action on a file and keeps its failure as a value. -/
def attempt {α : Type} (action : IO α) : IO (Except FileFault α) := do
  try
    return .ok (← action)
  catch error =>
    return .error (.ofSystem error)

/-- The files of the disk. -/
def diskStore : FileStore IO where
  read path := attempt do
    return (← IO.FS.readBinFile path).toList
  write path text := attempt do
    IO.FS.writeFile path text

end ClassFormat

/-- Runs the program. -/
def main (arguments : List String) : IO UInt32 := do
  let transcript ← (ClassFormat.Request.ofArguments arguments).run ClassFormat.diskStore
  (← IO.getStderr).putStr (String.join transcript.log)
  IO.print transcript.printed
  return transcript.exitCode
