import JavaHome.Command.Run
import JavaHome.Machine.Description

/-!
# The program

Reads the description of a machine from standard input, carries the command line out on it, and
writes what comes of it.
-/

namespace JavaHome

/-- The lines of a stream up to its end, without their line ends. -/
partial def readLines (stream : IO.FS.Stream) (lines : List String) : IO (List String) := do
  let line ← stream.getLine
  if line.isEmpty then
    return lines.reverse
  else
    let chars := line.toList
    let chars := if chars.getLast? = some '\n' then chars.dropLast else chars
    readLines stream (String.ofList chars :: lines)

/-- What is told about a failure that ends the program. -/
def Command.Escape.message : Command.Escape → String
  | failure f => f.message
  | markup e => e.message

end JavaHome

open JavaHome in
/-- Carry a command line out. -/
def main (args : List String) : IO UInt32 := do
  match Machine.ofLines (← readLines (← IO.getStdin) []) with
  | .error line =>
    IO.eprintln ("Error: no entry of a machine: " ++ line)
    return 3
  | .ok machine =>
    let report := Command.start machine args
    IO.print report.stdout
    IO.eprint report.stderr
    match report.escape with
    | some escape => IO.eprintln escape.message
    | none => pure ()
    return UInt32.ofNat report.exit
