import ShellTree.Engine.Evaluation

/-!
# Running scripts

The statements of a script are executed in order.  A failure is reported on the
standard error and counts as status -1; the script goes on unless it is to stop
at the first status other than zero.
-/

namespace ShellTree

/-- How a script ended: the status of the last executed statement, and the failure
if it failed. -/
structure Outcome where
  exitCode : Status := 0
  failure : Option Failure := none
  deriving DecidableEq

def Outcome.failed (failure : Failure) : Outcome where
  exitCode := -1
  failure := some failure

def Outcome.isSuccess (outcome : Outcome) : Bool :=
  outcome.exitCode = 0 && outcome.failure.isNone

namespace Shell

variable {ε : Type}

def warn (shell : Shell ε) (warning : Warning) : Shell ε :=
  { shell with warnings := shell.warnings ++ [warning] }

/-- Report a failure on the standard error, or warn that it could not be reported. -/
def report (shell : Shell ε) (failure : Failure) : Shell ε :=
  match shell.stderr.write ("walk-sh: " ++ failure.message ++ "\n") with
  | .ok sink => { shell with stderr := sink }
  | .error fault => shell.warn (.unreported (.stream fault))

/-- Flush both sinks, or warn that one could not be flushed. -/
def flush (shell : Shell ε) : Shell ε :=
  match shell.stdout.flush, shell.stderr.flush with
  | .error fault, _ => shell.warn (.unflushed (.stream fault))
  | .ok _, .error fault => shell.warn (.unflushed (.stream fault))
  | .ok _, .ok _ => shell

end Shell

namespace Engine

variable {ε : Type} [Store ε]

def traceLine (store : ε) (statement : Statement) : String :=
  Store.tracePrefix store ++ statement.render ++ "\n"

def traceAndExecute (engine : Engine ε) (statement : Statement) : Action ε Status := do
  if engine.options.printExecuted then
    Action.write (traceLine (← Action.store) statement)
  execute engine statement

def runStatement (engine : Engine ε) (statement : Statement) (shell : Shell ε) :
    Outcome × Shell ε :=
  match traceAndExecute engine statement shell with
  | .ok status after => (⟨status, none⟩, after)
  | .error failure after => (.failed failure, after.report failure)

/-- Run statements; `last` is the outcome of the one before. -/
def runStatements (engine : Engine ε) (last : Outcome) :
    List Statement → Shell ε → Outcome × Shell ε
  | [], shell => (last, shell)
  | statement :: rest, shell =>
      let (outcome, after) := runStatement engine statement shell
      if engine.options.exitOnError && outcome.exitCode ≠ 0 then (outcome, after)
      else runStatements engine outcome rest after

def run (engine : Engine ε) (script : Script) (shell : Shell ε) : Outcome × Shell ε :=
  let (outcome, after) := runStatements engine {} script shell
  (outcome, after.flush)

end Engine

end ShellTree
