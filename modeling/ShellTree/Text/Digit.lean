/-!
# Digits of a base

The ASCII digits of bases up to sixteen, in either case.
-/

namespace ShellTree.Digit

def hexValue? (digit : Char) : Option Nat :=
  if digit.isDigit then some (digit.toNat - '0'.toNat)
  else if 'a' ≤ digit ∧ digit ≤ 'f' then some (digit.toNat - 'a'.toNat + 10)
  else if 'A' ≤ digit ∧ digit ≤ 'F' then some (digit.toNat - 'A'.toNat + 10)
  else none

/-- The value of a digit below the given base, which is at most sixteen. -/
def value? (base : Nat) (digit : Char) : Option Nat :=
  (hexValue? digit).filter (· < base)

def isDigitOf (base : Nat) (digit : Char) : Bool :=
  (value? base digit).isSome

/-- The number that digits of the base stand for; other characters count as zero. -/
def toNat (base : Nat) (digits : List Char) : Nat :=
  digits.foldl (fun number digit => base * number + (value? base digit).getD 0) 0

def scalar? (code : Nat) : Option Char :=
  if code.isValidChar then some (Char.ofNat code) else none

/-- The hexadecimal digits of a number, in lower case, padded with zeros. -/
def hexPadded (width number : Nat) : List Char :=
  let digits := Nat.toDigits 16 number
  List.replicate (width - digits.length) '0' ++ digits

end ShellTree.Digit
