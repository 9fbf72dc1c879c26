import ShellTree.Failure
import ShellTree.Options

/-!
# Slices

A slice of a value is given by an offset and an optional bound, and counts
characters.  With end indices, both have to lie within the value and in order.
With counts, a negative offset and a negative count are taken from the end, an
offset outside of the value gives nothing, and a count beyond the end stops at it.
-/

namespace ShellTree

def between (chars : List Char) (start stop : Int64) : String :=
  String.ofList
    ((chars.drop start.toNatClampNeg).take (stop.toNatClampNeg - start.toNatClampNeg))

def slice (mode : SliceMode) (value : String) (offset : Int64) (bound : Option Int64) :
    Except Failure String :=
  let chars := value.toList
  let size := Int64.ofNat chars.length
  let outOfRange := Failure.sliceOutOfRange offset (bound.getD size) chars.length
  match mode with
  | .endIndex =>
      let stop := bound.getD size
      if offset < 0 ∨ offset > stop ∨ stop > size then .error outOfRange
      else .ok (between chars offset stop)
  | .count =>
      let start := if offset < 0 then size + offset else offset
      if start < 0 ∨ start ≥ size then .ok ""
      else match bound with
        | none => .ok (between chars start size)
        | some count =>
            if count < 0 then
              if size + count < start then .error outOfRange
              else .ok (between chars start (size + count))
            else if count ≤ size - start then .ok (between chars start (start + count))
            else .ok (between chars start size)

end ShellTree
