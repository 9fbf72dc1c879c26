import ShellTree.Engine.Shell

/-!
# Programs and registries

A program takes its arguments, without its own name, and acts on the shell.  A
registry finds a program by its name.
-/

namespace ShellTree

structure Program (ε : Type) where
  name : String
  run : List String → Action ε Status

structure Registry (ε : Type) where
  programs : List (Program ε) := []

namespace Registry

variable {ε : Type}

/-- Make a program known, in place of one with the same name. -/
def register (registry : Registry ε) (program : Program ε) : Registry ε :=
  ⟨registry.programs.filter (·.name != program.name) ++ [program]⟩

def registerAll (registry : Registry ε) (programs : List (Program ε)) : Registry ε :=
  programs.foldl register registry

def get? (registry : Registry ε) (name : String) : Option (Program ε) :=
  registry.programs.find? (·.name == name)

def contains (registry : Registry ε) (name : String) : Bool :=
  (registry.get? name).isSome

/-- The names of all programs in their order as texts. -/
def names (registry : Registry ε) : List String :=
  (registry.programs.map (·.name)).mergeSort fun left right => decide (left ≤ right)

def size (registry : Registry ε) : Nat :=
  registry.programs.length

end Registry

end ShellTree
