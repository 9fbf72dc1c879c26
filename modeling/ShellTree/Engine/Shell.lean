import ShellTree.Environment.Store
import ShellTree.Failure

/-!
# Shells and actions

A shell holds variables, two sinks and the warnings so far.  An action changes a
shell and gives a value or a failure; what it did before a failure stays done.
-/

namespace ShellTree

structure Shell (ε : Type) where
  store : ε
  stdout : Sink := {}
  stderr : Sink := {}
  warnings : List Warning := []

abbrev Action (ε : Type) := EStateM Failure (Shell ε)

abbrev Status := Int32

namespace Action

variable {ε α : Type}

def store : Action ε ε := fun shell =>
  .ok shell.store shell

def ofExcept (result : Except Failure α) : Action ε α := fun shell =>
  match result with
  | .ok value => .ok value shell
  | .error failure => .error failure shell

def write (text : String) : Action ε Unit := fun shell =>
  match shell.stdout.write text with
  | .ok sink => .ok () { shell with stdout := sink }
  | .error fault => .error (.stream fault) shell

def writeError (text : String) : Action ε Unit := fun shell =>
  match shell.stderr.write text with
  | .ok sink => .ok () { shell with stderr := sink }
  | .error fault => .error (.stream fault) shell

def warn (warning : Warning) : Action ε Unit := fun shell =>
  .ok () { shell with warnings := shell.warnings ++ [warning] }

variable [Store ε]

def set (name value : String) : Action ε Unit := fun shell =>
  .ok () { shell with store := Store.set shell.store name value }

/-- Run an action in a scope of its own, which is popped whether it fails or not. -/
def inScope (action : Action ε α) : Action ε α := fun shell =>
  let (guard, store) := Store.push shell.store
  match action { shell with store } with
  | .ok value after => .ok value { after with store := Store.pop after.store guard }
  | .error failure after => .error failure { after with store := Store.pop after.store guard }

/-- Run an action with a standard output of its own and give what it wrote there. -/
def captured (action : Action ε Unit) : Action ε String := fun shell =>
  match action { shell with stdout := {} } with
  | .ok _ after => .ok after.stdout.text { after with stdout := shell.stdout }
  | .error failure after => .error failure { after with stdout := shell.stdout }

end Action

end ShellTree
