import ShellTree.CommandLine.Arguments
import ShellTree.CommandLine.Files
import ShellTree.Engine.Script
import ShellTree.Program.Builtin
import ShellTree.Settings
import ShellTree.Tree.Reader

/-!
# The command line

What the program does with its arguments: it reads settings and a tree, runs the
script with the built-in programs, and ends with the script's exit code.
-/

namespace ShellTree.CommandLine

inductive Fault where
  | usage
  | unreadableSettings (path : String) (fault : FileFault)
  | invalidSettings
  | unreadableTree (path : String) (fault : FileFault)
  | invalidTree
  deriving DecidableEq

def Fault.message : Fault → String
  | .usage => "invalid arguments"
  | .unreadableSettings path fault =>
      "failed to read config from " ++ path ++ ": " ++ fault.message
  | .invalidSettings => "failed to parse config"
  | .unreadableTree path fault => "cannot read tree file: " ++ path ++ ": " ++ fault.message
  | .invalidTree => "invalid statement tree"

structure Result where
  exitStatus : Nat
  stdout : String
  stderr : String
  deriving DecidableEq

def versionLine : String :=
  "walk-sh 0.1.0\n"

def helpText : String :=
  "Execute a parsed shell statement tree\n\n" ++
    "Usage: walk-sh [OPTIONS] [TREE_FILE]\n\n" ++
    "Arguments:\n" ++
    "  [TREE_FILE]  JSON statement tree to execute (stdin when omitted)\n\n" ++
    "Options:\n" ++
    "  -e, --errexit                  Exit immediately if a statement exits with non-zero status\n" ++
    "  -x, --xtrace                   Print each statement, prefixed with PS4, before running it\n" ++
    "      --slice-mode <SLICE_MODE>  How the second bound of a slice is read " ++
    "[possible values: end-index, count]\n" ++
    "      --env <NAME=VALUE>         Set an initial variable (repeatable)\n" ++
    "      --config <FILE>            TOML file with [options] and [env] tables\n" ++
    "      --json                     Print exit code and error as JSON after the script finishes\n" ++
    "  -h, --help                     Print help\n" ++
    "  -V, --version                  Print version\n"

def loadSettings (read : String → Except FileFault String) (path : String) :
    Except Fault Settings :=
  match read path with
  | .error fault => .error (.unreadableSettings path fault)
  | .ok text =>
      match Settings.ofToml? text with
      | some settings => .ok settings
      | none => .error .invalidSettings

/-- The settings that hold after the arguments, which go before those of the file. -/
def applyArguments (arguments : Arguments) (settings : Settings) : Settings where
  options :=
    { exitOnError := arguments.exitOnError || settings.options.exitOnError
      printExecuted := arguments.printExecuted || settings.options.printExecuted
      sliceMode := arguments.sliceMode.getD settings.options.sliceMode }
  bindings := settings.bindings.putAll arguments.bindings

/-- The exit status of a process that ends with a status: its lowest eight bits. -/
def exitStatus (status : Status) : Nat :=
  (status.toInt % 256).toNat

def outcomeLine (outcome : Outcome) : String :=
  (Json.object [("error", .ofText (outcome.failure.map Failure.message)),
    ("exitCode", .ofInt outcome.exitCode.toInt)]).text ++ "\n"

def runScript (arguments : Arguments) (read : String → Except FileFault String)
    (stdin : String) : Except Fault Result := do
  let settings ← match arguments.settings with
    | some path => loadSettings read path
    | none => .ok {}
  let settings := applyArguments arguments settings
  let source ← match arguments.tree with
    | some path => (read path).mapError (.unreadableTree path)
    | none => .ok stdin
  let script ← match Reader.ofText? Reader.script? source with
    | some script => .ok script
    | none => .error .invalidTree
  let engine : Engine Environment := ⟨settings.options, .builtin⟩
  let (outcome, shell) := engine.run script { store := settings.environment }
  return {
    exitStatus := exitStatus outcome.exitCode
    stdout := shell.stdout.text ++ if arguments.json then outcomeLine outcome else ""
    stderr := shell.stderr.text }

def run (arguments : List String) (read : String → Except FileFault String) (stdin : String) :
    Except Fault Result :=
  match Arguments.parse? {} arguments with
  | none => .error .usage
  | some .version => .ok ⟨0, versionLine, ""⟩
  | some .help => .ok ⟨0, helpText, ""⟩
  | some (.run arguments) => runScript arguments read stdin

end ShellTree.CommandLine
