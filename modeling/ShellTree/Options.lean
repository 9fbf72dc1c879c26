import ShellTree.Json.Fields
import ShellTree.Tree.Writer

/-!
# Options

The settings that steer a run.
-/

namespace ShellTree

/-- How the second bound of a slice is read: as the index where it ends or as
the number of its characters. -/
inductive SliceMode where
  | endIndex
  | count
  deriving DecidableEq

instance : Vocabulary SliceMode where
  members := [.endIndex, .count]
  name
    | .endIndex => "end-index"
    | .count => "count"

/-- Whether a run stops at the first status other than zero, whether it prints
each statement before it is executed, and how slices are read. -/
structure Options where
  exitOnError : Bool := false
  printExecuted : Bool := false
  sliceMode : SliceMode := .endIndex
  deriving DecidableEq

namespace Options

def fieldNames : List String :=
  ["exit_on_error", "print_executed", "slice_mode"]

def toJson (options : Options) : Json :=
  .object [("exit_on_error", .bool options.exitOnError),
    ("print_executed", .bool options.printExecuted), ("slice_mode", .ofName options.sliceMode)]

/-- Read options; every field has a default. -/
def read? (held : Bool) : Nat → Json → Option Options
  | 0, _ => none
  | levels + 1, value => do
      match ← Json.fields? fieldNames value with
      | [exitOnError, printExecuted, sliceMode] =>
          return ⟨← Json.defaulted false Json.bool? exitOnError,
            ← Json.defaulted false Json.bool? printExecuted,
            ← Json.defaulted .endIndex (Json.name? held levels) sliceMode⟩
      | _ => none

end Options

end ShellTree
