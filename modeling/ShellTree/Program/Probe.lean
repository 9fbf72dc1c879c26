import ShellTree.Program.Basic

/-!
# Probe programs

Small programs that exercise what a program may do to a shell: give any status,
fail, bind a variable, leave a scope open, and write to the standard error.
-/

namespace ShellTree.Program

variable {ε : Type}

/-- Gives its first argument as status, or zero if that is not a number. -/
def exitWith : Program ε where
  name := "exit-with"
  run arguments := return (arguments.head?.bind fun text => Decimal.toInt32? text.toList).getD 0

/-- Fails with its arguments as message. -/
def explode : Program ε where
  name := "explode"
  run arguments := throw (.program "explode" (" ".intercalate arguments))

def setVar [Store ε] : Program ε where
  name := "set-var"
  run
    | [name, value] => do
        Action.set name value
        return 0
    | _ => throw (.program "set-var" "expected NAME VALUE")

/-- Pushes a scope, binds a variable in it and leaves it open. -/
def leakScope : Program Environment where
  name := "leak-scope"
  run
    | [name, value] => do
        modify fun shell => { shell with store := shell.store.push.2 }
        Action.set name value
        return Int32.ofNat (← Action.store).depth
    | _ => throw (.program "leak-scope" "expected NAME VALUE")

def warn : Program ε where
  name := "warn"
  run arguments := do
    Action.writeError (" ".intercalate arguments)
    return 0

def probes : List (Program Environment) :=
  [exitWith, explode, setVar, leakScope, warn]

end ShellTree.Program
