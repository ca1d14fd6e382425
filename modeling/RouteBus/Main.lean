import RouteBus.CommandLine.Run

/-!
# The program

Reads the standard input and whatever files a run asks for, and prints what the
run reports.
-/

namespace RouteBus.Program

/-- Reads everything that is left of a stream. -/
partial def readAll (stream : IO.FS.Stream) (sofar : Files.Bytes) : IO Files.Bytes := do
  let chunk ← stream.read 65536
  if chunk.isEmpty then return sofar
  readAll stream (sofar ++ chunk.toList)

def readFault : IO.Error → Files.Fault
  | .noFileOrDirectory .. => .missing
  | .inappropriateType _ 21 _ => .isDirectory
  | .inappropriateType .. => .notDirectory
  | e => .other (toString e)

def readFile (path : String) : IO (Except Files.Fault Files.Bytes) := do
  try return .ok (← IO.FS.readBinFile path).toList
  catch e => return .error (readFault e)

/-- Makes the run again with the files that it asked for, until it asks for none. -/
partial def settle (args : List String) (stdin : Files.Bytes)
    (files : List (String × Except Files.Fault Files.Bytes)) : IO CommandLine.Report := do
  let report := CommandLine.run (files.lookup ·) args stdin
  if report.wanted.isEmpty then return report
  let found ← report.wanted.mapM fun path => return (path, ← readFile path)
  settle args stdin (files ++ found)

end RouteBus.Program

open RouteBus

def main (args : List String) : IO UInt32 := do
  let stdin ← match CommandLine.parse args with
    | some (.run _) => Program.readAll (← IO.getStdin) []
    | _ => pure []
  let report ← Program.settle args stdin []
  for line in report.lines do
    IO.println line.text
  match report.ending with
  | .helped => IO.println CommandLine.usage
  | .misused => IO.eprintln CommandLine.usage
  | ending => ending.error?.forM fun message => IO.eprintln s!"Error: {message}"
  return report.ending.exitCode.toUInt32
