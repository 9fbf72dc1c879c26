/-!
# The range of doubles

Whether a decimal numeral, a significand times a power of ten, stays within the range
of doubles.  There are two ways to tell.  One compares the exact value with the limit.
The other goes by what two roundings leave: the leading digits and the power of ten are
rounded to doubles first, and then their product counts.  Close to the limit the second
way refuses numerals that the first one takes.
-/

namespace ShellTree.Double

/-- The least magnitude that rounds beyond the largest finite double. -/
def limit : Nat :=
  Nat.pow 2 1024 - Nat.pow 2 970

def digitCount (number : Nat) : Nat :=
  (Nat.toDigits 10 number).length

/-- Whether the exact value `significand * 10 ^ exponent` stays below the limit. -/
def fits (significand : Nat) (exponent : Int) : Bool :=
  significand == 0 ||
    let size := (digitCount significand : Int) + exponent
    if size ≤ 308 then true
    else if 310 ≤ size then false
    else if exponent < 0 then significand < limit * Nat.pow 10 exponent.natAbs
    else significand * Nat.pow 10 exponent.toNat < limit

/-- A number rounded to 53 bits; a half goes to the even neighbour. -/
def round (number : Nat) : Nat :=
  let unit := Nat.pow 2 (number.log2 - 52)
  let count := number / unit
  let rest := number % unit
  if unit < 2 * rest ∨ (2 * rest = unit ∧ count % 2 = 1) then (count + 1) * unit
  else count * unit

/-- The leading digits of a number, as many as fit into 64 bits, and the number of the
digits that are left out. -/
def leading (number : Nat) : Nat × Nat :=
  if number < UInt64.size then (number, 0)
  else
    let excess := digitCount number - 20
    let kept := number / Nat.pow 10 excess
    if kept < UInt64.size then (kept, excess) else (kept / 10, excess + 1)

/-- Whether the product of the rounded leading digits and the rounded power of ten stays
below the limit. -/
def fitsRounded (significand : Nat) (exponent : Int) : Bool :=
  let (kept, omitted) := leading significand
  let power := exponent + omitted
  kept == 0 || power < 0 ||
    (power ≤ 308 && decide (round kept * round (Nat.pow 10 power.toNat) < limit))

end ShellTree.Double
