import ShellTree.Text.Double

/-!
# JSON values

A value keeps the members of an object in order and with repetitions, since a
reader may care about both.  Well-formed text can hold things that have no
value: half of a surrogate pair, or a number beyond the range of a double.  They
become `unreadable`, which can be skipped but never read.
-/

namespace ShellTree

/-- A numeral as it is spelled: with or without a fraction or an exponent. -/
inductive Numeral where
  | integer (negative : Bool) (magnitude : Nat)
  | decimal (negative : Bool) (significand : Nat) (exponent : Int)
  deriving DecidableEq

namespace Numeral

/-- The integer that is spelled without fraction and exponent.  Minus zero is not one. -/
def toInt? : Numeral → Option Int
  | .integer false magnitude => some magnitude
  | .integer true 0 => none
  | .integer true magnitude => some (-magnitude)
  | .decimal .. => none

/-- Whether the numeral is read as a finite double. -/
def isFinite : Numeral → Bool
  | .integer _ magnitude => Double.fitsRounded magnitude 0
  | .decimal _ significand exponent => Double.fitsRounded significand exponent

end Numeral

inductive Json where
  | null
  | bool (value : Bool)
  | number (value : Numeral)
  | string (value : String)
  | array (items : List Json)
  | object (members : List (String × Json))
  | unreadable

namespace Json

mutual

def depth : Json → Nat
  | .array items => depthItems items + 1
  | .object members => depthMembers members + 1
  | _ => 0

def depthItems : List Json → Nat
  | [] => 0
  | item :: rest => max (depth item) (depthItems rest)

def depthMembers : List (String × Json) → Nat
  | [] => 0
  | (_, value) :: rest => max (depth value) (depthMembers rest)

end

mutual

def readable : Json → Bool
  | .unreadable => false
  | .array items => readableItems items
  | .object members => readableMembers members
  | _ => true

def readableItems : List Json → Bool
  | [] => true
  | item :: rest => readable item && readableItems rest

def readableMembers : List (String × Json) → Bool
  | [] => true
  | (_, value) :: rest => readable value && readableMembers rest

end

def ofInt (number : Int) : Json :=
  .number (.integer (number < 0) number.natAbs)

end Json

end ShellTree
