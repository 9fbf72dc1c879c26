/-!
# Runs of code points

Most case pairs come in runs: every code point, or every second one, of a range
is mapped at the same distance.
-/

namespace ShellTree.Text

/-- The code points from `first` to `last` in steps of `stride`; the first one is
mapped to `target` and the others at the same distance. -/
structure Run where
  first : Nat
  last : Nat
  stride : Nat
  target : Nat

def Run.map? (run : Run) (code : Nat) : Option Nat :=
  if run.first ≤ code ∧ code ≤ run.last ∧ (code - run.first) % run.stride = 0 then
    some (run.target + (code - run.first))
  else none

def mapCode? (runs : List Run) (code : Nat) : Option Nat :=
  runs.findSome? fun run => run.map? code

def inRanges (ranges : List (Nat × Nat)) (code : Nat) : Bool :=
  ranges.any fun range => decide (range.1 ≤ code ∧ code ≤ range.2)

end ShellTree.Text
