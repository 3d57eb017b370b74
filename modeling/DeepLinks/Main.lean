import DeepLinks.CommandLine.Run

/-!
# The program

Reads the route file and the standard input, and writes what the command line says.
-/

namespace DeepLinks.CommandLine

/-- What is found under a path. -/
def look (path : String) : IO FileState := do
  try
    return .content (← IO.FS.readBinFile path)
  catch
    | .noFileOrDirectory .. => return .missing
    | .inappropriateType .. => return .directory
    | _ => return .denied

def write (o : Outcome) : IO UInt32 := do
  (← IO.getStdout).putStr o.out
  (← IO.getStdout).flush
  (← IO.getStderr).putStr o.err
  return UInt32.ofNat o.code

/-- Answers line by line. -/
partial def watch (t : Table) (input : IO.FS.Stream) : IO UInt32 := do
  let line ← input.getLine
  if line.isEmpty then return 0
  let _ ← write (Command.watch.run t line)
  watch t input

end DeepLinks.CommandLine

open DeepLinks CommandLine

def main (args : List String) : IO UInt32 := do
  match Invocation.parse args with
  | .error _ => write (run (fun _ => .missing) args "")
  | .ok i =>
    let file ← look i.routes
    match i.command, (Settings.load i.routes file).toOption.bind (·.manifest.build.toOption) with
    | .watch, some t => watch t (← IO.getStdin)
    | _, _ => write (i.run file "")
