import FrameRouter.CommandLine.Program

/-!
# Command line

Reads the files that the arguments name, runs the program on them and hands
its texts and its exit code to the system.
-/

namespace FrameRouter

def readFile (path : String) : IO (Except FileFailure String) := do
  try
    let bytes ← IO.FS.readBinFile path
    return match String.fromUTF8? bytes with
      | some text => .ok text
      | none => .error .notText
  catch
    | .noFileOrDirectory .. => return .error .missing
    | .inappropriateType _ 21 _ => return .error .isDirectory
    | .inappropriateType .. => return .error .notDirectory
    | .invalidArgument _ _ "name too long" => return .error .nameTooLong
    | failure => return .error (.other (toString failure))

def readFiles (paths : List String) : IO CommandLine.Files := do
  let contents ← paths.mapM fun path => do return (path, ← readFile path)
  return fun path => (contents.lookup path).getD (.error .missing)

/-- The bytes there are for the queues of a run. -/
def queueMemory : Nat := Nat.pow 2 35

/-- The exit code that stands for a run that is cut off. -/
def cutOffCode : Nat := 134

end FrameRouter

open FrameRouter in
def main (arguments : List String) : IO UInt32 := do
  let paths :=
    match CommandLine.Command.ofArguments arguments with
    | .ok command => command.files
    | .error _ => []
  let outcome := CommandLine.run queueMemory (← readFiles paths) arguments
  IO.print outcome.output
  IO.eprint outcome.errors
  return UInt32.ofNat (outcome.exitCode.getD cutOffCode)
