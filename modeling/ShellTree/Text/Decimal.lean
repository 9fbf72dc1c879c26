/-!
# Decimal numerals

Natural numbers are written without leading zeros and read with any number of
them.  Integers carry a minus sign when negative; a plus sign is read but never
written.
-/

namespace ShellTree.Decimal

def ofNat (number : Nat) : List Char :=
  Nat.toDigits 10 number

/-- One or more digits, read as a natural number. -/
def toNat? (digits : List Char) : Option Nat :=
  if digits.isEmpty || !digits.all Char.isDigit then none
  else some (Nat.ofDigitChars 10 digits 0)

def ofInt (number : Int) : List Char :=
  if number < 0 then '-' :: ofNat number.natAbs else ofNat number.natAbs

/-- Digits after at most one sign, read as an integer. -/
def toInt? : List Char → Option Int
  | '-' :: digits => (toNat? digits).map fun number => -(number : Int)
  | '+' :: digits => (toNat? digits).map fun number => (number : Int)
  | digits => (toNat? digits).map fun number => (number : Int)

def text (number : Int) : String :=
  String.ofList (ofInt number)

def toInt64? (digits : List Char) : Option Int64 := do
  let number ← toInt? digits
  if Int64.minValue.toInt ≤ number ∧ number ≤ Int64.maxValue.toInt then some (Int64.ofInt number)
  else none

def toInt32? (digits : List Char) : Option Int32 := do
  let number ← toInt? digits
  if Int32.minValue.toInt ≤ number ∧ number ≤ Int32.maxValue.toInt then some (Int32.ofInt number)
  else none

end ShellTree.Decimal
