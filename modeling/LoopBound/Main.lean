import LoopBound.Command.Run

/-!
# The program

Reads the source that a run asks for, and writes what the run comes to.
-/

namespace LoopBound.Command

/-- The bytes of a source; none if there is no such file. -/
def readSource : Source → IO (Option (List UInt8))
  | .standardInput => do
    let bytes ← (← IO.getStdin).readBinToEnd
    return some bytes.toList
  | .file path => do
    try
      return some (← IO.FS.readBinFile path).toList
    catch _ => return none

/-- Writes a file, with the directories that lead to it. -/
def writeText (path text : String) : IO Unit := do
  let folders := (pathParts path).dropLast
  if !folders.isEmpty then
    IO.FS.createDirAll (pathStart path ++ "/".intercalate folders)
  IO.FS.writeFile path text

/-- Writes what a run comes to. -/
def deliver (o : Outcome) : IO UInt32 := do
  (← IO.getStderr).putStr o.stderr
  (← IO.getStdout).putStr o.stdout
  if let some (path, text) := o.written then
    writeText path text
  return o.exit.toUInt32

end LoopBound.Command

open LoopBound.Command

/-- Runs the program on the words of its command line. -/
def main (words : List String) : IO UInt32 := do
  match prepare words with
  | .error o => deliver o
  | .ok job => deliver (job.execute (← readSource job.source))
