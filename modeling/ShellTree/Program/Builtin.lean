import ShellTree.Program.Basic
import ShellTree.Text.Escape

/-!
# Built-in programs

`echo` writes its arguments, `printenv` writes variables, and `true`, `:` and
`false` do nothing but give a status.
-/

namespace ShellTree

namespace Echo

/-- Whether `echo` ends its output with a newline and resolves escapes. -/
structure Flags where
  newline : Bool := true
  escapes : Bool := false
  deriving DecidableEq

def Flags.take? (flags : Flags) (argument : String) : Option Flags :=
  if argument = "-n" then some { flags with newline := false }
  else if argument = "-e" then some { flags with escapes := true }
  else if argument = "-E" then some { flags with escapes := false }
  else if argument = "-ne" ∨ argument = "-en" then some ⟨false, true⟩
  else none

def Flags.split (flags : Flags) : List String → Flags × List String
  | [] => (flags, [])
  | argument :: rest =>
      match flags.take? argument with
      | some more => more.split rest
      | none => (flags, argument :: rest)

def output (arguments : List String) : String :=
  let (flags, words) := Flags.split {} arguments
  let text := " ".intercalate words
  let ending := if flags.newline then "\n" else ""
  if flags.escapes then
    let unescaped := Text.unescape text.toList
    String.ofList unescaped.output ++ if unescaped.stopped then "" else ending
  else text ++ ending

end Echo

namespace Printenv

def listing (bindings : Bindings) : String :=
  String.join (bindings.pairs.map fun pair => pair.1 ++ "=" ++ pair.2 ++ "\n")

def values {ε : Type} [Store ε] (store : ε) (names : List String) : String :=
  String.join (names.filterMap fun name => (Store.get? store name).map (· ++ "\n"))

end Printenv

namespace Program

variable {ε : Type}

def echo : Program ε where
  name := "echo"
  run arguments := do
    Action.write (Echo.output arguments)
    return 0

/-- Writes all variables, or the values of the named ones; fails if one is unset. -/
def printenv [Store ε] : Program ε where
  name := "printenv"
  run arguments := do
    let store ← Action.store
    if arguments.isEmpty then
      Action.write (Printenv.listing (Store.bindings store))
      return 0
    else
      Action.write (Printenv.values store arguments)
      return if arguments.all (Store.isSet store) then 0 else 1

def constant (name : String) (status : Status) : Program ε where
  name
  run _ := return status

def builtins [Store ε] : List (Program ε) :=
  [echo, printenv, constant "true" 0, constant "false" 1, constant ":" 0]

end Program

def Registry.builtin {ε : Type} [Store ε] : Registry ε :=
  Registry.registerAll {} Program.builtins

end ShellTree
