import ShellTree.Failure

/-!
# Arithmetic operators

Operators on 64-bit signed integers.  Results that do not fit wrap around.
-/

namespace ShellTree

def truthValue (flag : Bool) : Int64 :=
  if flag then 1 else 0

def power (base : Int64) (exponent : Nat) : Int64 :=
  if exponent = 0 then 1
  else
    let square := power (base * base) (exponent / 2)
    if exponent % 2 = 1 then base * square else square
termination_by exponent
decreasing_by omega

/-- The largest exponent of a power; a larger one counts as this one. -/
def maxExponent : Nat :=
  UInt32.size - 1

def UnaryOperator.apply (operator : UnaryOperator) (operand : Int64) : Int64 :=
  match operator with
  | .neg => -operand
  | .pos => operand
  | .not => truthValue (operand = 0)
  | .bitNot => ~~~operand
  | .inc => operand + 1
  | .dec => operand - 1

def UnaryOperator.assigns : UnaryOperator → Bool
  | .inc | .dec => true
  | _ => false

/-- The value that the left operand alone decides. -/
def BinaryOperator.decided? (operator : BinaryOperator) (left : Int64) : Option Int64 :=
  match operator with
  | .logAnd => if left = 0 then some 0 else none
  | .logOr => if left ≠ 0 then some 1 else none
  | _ => none

/-- How far a shift goes: the last six bits of its amount, which is cut to 32 bits first. -/
def shiftDistance (amount : Int64) : Nat :=
  (amount.toUInt64.toUInt32 &&& 63).toNat

/-- The value of an operator with two operands.  Quotients are truncated, and a shift
to the right keeps the sign. -/
def BinaryOperator.apply (operator : BinaryOperator) (left right : Int64) :
    Except Failure Int64 :=
  match operator with
  | .add => .ok (left + right)
  | .sub => .ok (left - right)
  | .mul => .ok (left * right)
  | .div => if right = 0 then .error .divisionByZero else .ok (left / right)
  | .mod => if right = 0 then .error .divisionByZero else .ok (left % right)
  | .pow =>
      if right < 0 then .error .negativeExponent
      else .ok (power left (min right.toNatClampNeg maxExponent))
  | .lShift => .ok (.ofBitVec (left.toBitVec <<< shiftDistance right))
  | .rShift => .ok (.ofBitVec (left.toBitVec.sshiftRight (shiftDistance right)))
  | .lt => .ok (truthValue (left < right))
  | .le => .ok (truthValue (left ≤ right))
  | .gt => .ok (truthValue (left > right))
  | .ge => .ok (truthValue (left ≥ right))
  | .eq => .ok (truthValue (left = right))
  | .ne => .ok (truthValue (left ≠ right))
  | .bitAnd => .ok (left &&& right)
  | .bitOr => .ok (left ||| right)
  | .bitXor => .ok (left ^^^ right)
  | .logAnd => .ok (truthValue (left ≠ 0 && right ≠ 0))
  | .logOr => .ok (truthValue (left ≠ 0 || right ≠ 0))
  | .comma => .ok right

end ShellTree
