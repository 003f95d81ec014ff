/-
# The command-line program

The files that a command may read are read before it runs; what it writes and its
exit code are then a function of their contents. A path that cannot be read counts
as no file. Options files are read by the YAML rules of this library.
-/

import Stencil.Command.Run
import Stencil.Yaml.Document

namespace Stencil.Command

/-- The contents of a file, if it can be read. -/
def readFile? (path : Path) : IO (Option ByteArray) := do
  try
    return some (← IO.FS.readBinFile path.describe)
  catch _ => return none

/-- The files at the given paths. -/
def snapshot (paths : List Path) : IO Disk := do
  let contents ← paths.mapM fun path => return (path, ← readFile? path)
  return fun path => (contents.find? fun (place, _) => place = path).bind Prod.snd

/-- Show what a command wrote, and give its exit code. -/
def finish (transcript : Transcript) : IO UInt32 := do
  (← IO.getStdout).putStr transcript.stdout
  let errors ← IO.getStderr
  errors.putStr transcript.stderr
  match transcript.ending with
  | .exit code => return code.toUInt32
  | .abort cause =>
    errors.putStr (errorLine cause.message)
    return 1

end Stencil.Command

open Stencil in
/-- Read the command line, run the command and give its exit code. -/
def main (arguments : List String) : IO UInt32 := do
  match Command.read arguments with
  | .error stop => Command.finish (Command.stopped stop)
  | .ok command =>
    let disk ← Command.snapshot command.paths
    Command.finish (command.run Yaml.read disk)
