import ShellTree.CommandLine.Run

/-!
# The program

Reads the files that the arguments name and the standard input, and prints what the
command line leaves behind.
-/

namespace ShellTree.CommandLine

def faultOf : IO.Error → FileFault
  | .noFileOrDirectory _ code details => .system code.toNat details
  | .permissionDenied _ code details => .system code.toNat details
  | .inappropriateType _ code details => .system code.toNat details
  | .invalidArgument _ code details => .system code.toNat details
  | failure => .system 5 (toString failure)

def readFile (path : String) : IO (Except FileFault String) := do
  try
    return .ok (← IO.FS.readFile path)
  catch failure =>
    return .error (faultOf failure)

partial def readAll (stream : IO.FS.Stream) (text : String) : IO String := do
  let line ← stream.getLine
  if line.isEmpty then return text else readAll stream (text ++ line)

def readFiles (paths : List String) : IO (List (String × Except FileFault String)) :=
  paths.mapM fun path => return (path, ← readFile path)

def perform (arguments : List String) : IO (Except Fault Result) := do
  match Arguments.parse? {} arguments with
  | some (.run asked) =>
      let files ← readFiles (asked.settings.toList ++ asked.tree.toList)
      let stdin ← if asked.tree.isSome then pure "" else readAll (← IO.getStdin) ""
      return run arguments (fun path => (files.lookup path).getD (.error .missing)) stdin
  | _ => return run arguments (fun _ => .error .missing) ""

end ShellTree.CommandLine

def main (arguments : List String) : IO UInt32 := do
  match ← ShellTree.CommandLine.perform arguments with
  | .ok result =>
      IO.print result.stdout
      IO.eprint result.stderr
      return result.exitStatus.toUInt32
  | .error fault =>
      IO.eprintln ("Error: " ++ fault.message)
      return 2
