import Mathlib.Data.Int.ModEq
import ShellTree.Arithmetic.Operator

/-!
# Numbers that wrap around

A result that does not fit into 64 bits is replaced by the number of 64 bits that is
congruent to it modulo `2 ^ 64`.  Of the quotients only one does not fit, remainders and
shifts to the right are exact, and shifts to the left are products that wrap around.
-/

namespace ShellTree

/-! ## Wrapped integers -/

/-- The wrapped form of an integer is the only number of 64 bits that is congruent to it. -/
theorem eq_ofInt_iff (value : Int64) (exact : Int) :
    value = Int64.ofInt exact ↔ value.toInt ≡ exact [ZMOD 2 ^ 64] := by
  constructor
  · rintro rfl
    rw [Int64.toInt_ofInt]
    exact Int.bmod_emod
  · intro congruent
    have residue : value.toInt.bmod (2 ^ 64) = exact.bmod (2 ^ 64) := by
      rw [← Int.emod_bmod value.toInt, ← Int.emod_bmod exact]
      exact congrArg (Int.bmod · (2 ^ 64)) congruent
    rw [← Int64.ofInt_toInt value]
    apply Int64.toInt_inj.mp
    rw [Int64.toInt_ofInt, Int64.toInt_ofInt]
    exact residue

theorem ofInt_eq_ofInt_iff (left right : Int) :
    Int64.ofInt left = Int64.ofInt right ↔ left ≡ right [ZMOD 2 ^ 64] := by
  have wrapped : (Int64.ofInt left).toInt ≡ left [ZMOD 2 ^ 64] := (eq_ofInt_iff _ left).mp rfl
  rw [eq_ofInt_iff]
  constructor
  · exact wrapped.symm.trans
  · exact wrapped.trans

/-! ## Quotients and remainders -/

/-- A result that is guarded against the divisor zero fails for no other one. -/
theorem guarded_eq_error_iff (right value : Int64) :
    (if right = 0 then .error .divisionByZero else .ok value : Except Failure Int64) =
      .error .divisionByZero ↔ right = 0 := by
  constructor
  · intro failed
    by_contra nonzero
    rw [if_neg nonzero] at failed
    cases failed
  · exact fun zero => if_pos zero

/-- A quotient is truncated, except that the smallest number by minus one is itself. -/
theorem toInt_quotient (left right : Int64) :
    (left / right).toInt =
      if left = Int64.minValue ∧ right = -1 then Int64.minValue.toInt
      else left.toInt.tdiv right.toInt := by
  split
  · next overflows =>
      obtain ⟨rfl, rfl⟩ := overflows
      decide
  · next fits =>
      rcases not_and_or.mp fits with larger | other
      · exact Int64.toInt_div_of_ne_left left right larger
      · exact Int64.toInt_div_of_ne_right left right other

theorem toInt_remainder (left right : Int64) :
    (left % right).toInt = left.toInt - right.toInt * left.toInt.tdiv right.toInt := by
  rw [Int64.toInt_mod, Int.tmod_def]

theorem natAbs_remainder_lt (left : Int64) {right : Int64} (nonzero : right ≠ 0) :
    (left % right).toInt.natAbs < right.toInt.natAbs := by
  have divisor : right.toInt ≠ 0 := fun zero => nonzero (Int64.toInt_inj.mp zero)
  rw [Int64.toInt_mod, Int.natAbs_tmod]
  exact Nat.mod_lt _ (Int.natAbs_pos.mpr divisor)

theorem sign_remainder (left right : Int64) :
    (left % right).toInt = 0 ∨ (left % right).toInt.sign = left.toInt.sign := by
  have sign := Int.sign_tmod left.toInt right.toInt
  rw [← Int64.toInt_mod] at sign
  split at sign
  · exact .inl (Int.sign_eq_zero_iff_zero.mp sign)
  · exact .inr sign

/-- Quotient and remainder make up the dividend, also where the quotient wraps around. -/
theorem quotient_mul_add_remainder (left right : Int64) :
    (left / right).toInt * right.toInt + (left % right).toInt ≡ left.toInt [ZMOD 2 ^ 64] := by
  have quotient : (left / right).toInt ≡ left.toInt.tdiv right.toInt [ZMOD 2 ^ 64] := by
    rw [Int64.toInt_div]
    exact Int.bmod_emod
  have whole : left.toInt.tdiv right.toInt * right.toInt + (left % right).toInt = left.toInt := by
    rw [Int64.toInt_mod]
    exact Int.tdiv_mul_add_tmod _ _
  have sum := (quotient.mul_right right.toInt).add_right (left % right).toInt
  rwa [whole] at sum

/-! ## Shifts -/

/-- Cutting the amount to 32 bits loses none of the six bits that count. -/
theorem shiftDistance_eq_mod (amount : Int64) :
    shiftDistance amount = amount.toUInt64.toNat % 64 := by
  have mask : (63 : UInt32).toNat = 2 ^ 6 - 1 := rfl
  rw [shiftDistance, UInt32.toNat_and, mask, Nat.and_two_pow_sub_one_eq_mod,
    UInt64.toNat_toUInt32]
  exact Nat.mod_mod_of_dvd _ (by decide)

/-- The distance of a shift is the Euclidean remainder of its amount, whatever its sign. -/
theorem natCast_shiftDistance (amount : Int64) :
    (shiftDistance amount : Int) = amount.toInt % 64 := by
  have whole : amount.toInt = (amount.toUInt64.toNat : Int).bmod (2 ^ 64) :=
    BitVec.toInt_eq_toNat_bmod amount.toBitVec
  rw [shiftDistance_eq_mod, whole, Int.bmod_def]
  omega

theorem toInt_shiftLeft_modEq (left : Int64) (distance : Nat) :
    (Int64.ofBitVec (left.toBitVec <<< distance)).toInt ≡
      left.toInt * 2 ^ distance [ZMOD 2 ^ 64] := by
  have unsigned : left.toInt ≡ left.toBitVec.toNat [ZMOD 2 ^ 64] := by
    have wrapped : left.toInt = (left.toBitVec.toNat : Int).bmod (2 ^ 64) :=
      BitVec.toInt_eq_toNat_bmod left.toBitVec
    rw [wrapped]
    exact Int.bmod_emod
  rw [Int64.toInt_ofBitVec, BitVec.toInt_shiftLeft, Nat.shiftLeft_eq, Nat.cast_mul, Nat.cast_pow,
    Nat.cast_ofNat]
  exact Int.ModEq.trans Int.bmod_emod (unsigned.symm.mul_right _)

theorem toInt_shiftRight (left : Int64) (distance : Nat) :
    (Int64.ofBitVec (left.toBitVec.sshiftRight distance)).toInt =
      left.toInt.fdiv (2 ^ distance) := by
  have positive : (0 : Int) ≤ 2 ^ distance := Int.pow_nonneg (by decide)
  rw [Int64.toInt_ofBitVec, BitVec.toInt_sshiftRight, Int.shiftRight_eq_div_pow, Nat.cast_pow,
    Nat.cast_ofNat, Int.fdiv_eq_ediv_of_nonneg _ positive]
  rfl

/-- Quotients and remainders fail for the divisor zero only.  Otherwise the quotient is truncated,
except for the one that does not fit, the remainder is exact, and both make up the dividend.
Shifts go as far as the Euclidean remainder of their amount by 64 says: to the left they
multiply, wrapping around, and to the right they divide and round down. -/
theorem quotients_and_shifts_exact (left right : Int64) :
    (BinaryOperator.div.apply left right = .error .divisionByZero ↔ right = 0) ∧
      (BinaryOperator.mod.apply left right = .error .divisionByZero ↔ right = 0) ∧
      (right ≠ 0 → ∃ quotient remainder,
        BinaryOperator.div.apply left right = .ok quotient ∧
          BinaryOperator.mod.apply left right = .ok remainder ∧
          quotient.toInt =
            (if left = Int64.minValue ∧ right = -1 then Int64.minValue.toInt
            else left.toInt.tdiv right.toInt) ∧
          remainder.toInt = left.toInt - right.toInt * left.toInt.tdiv right.toInt ∧
          remainder.toInt.natAbs < right.toInt.natAbs ∧
          (remainder.toInt = 0 ∨ remainder.toInt.sign = left.toInt.sign) ∧
          quotient.toInt * right.toInt + remainder.toInt ≡ left.toInt [ZMOD 2 ^ 64]) ∧
      (∃ shifted, BinaryOperator.lShift.apply left right = .ok shifted ∧
        ∀ value : Int64, value = shifted ↔
          value.toInt ≡ left.toInt * 2 ^ (right.toInt % 64).toNat [ZMOD 2 ^ 64]) ∧
      ∃ shifted, BinaryOperator.rShift.apply left right = .ok shifted ∧
        shifted.toInt = left.toInt.fdiv (2 ^ (right.toInt % 64).toNat) := by
  have distance : shiftDistance right = (right.toInt % 64).toNat := by
    rw [← natCast_shiftDistance, Int.toNat_natCast]
  refine ⟨?_, ?_, fun nonzero => ?_, ?_, ?_⟩
  · exact guarded_eq_error_iff right (left / right)
  · exact guarded_eq_error_iff right (left % right)
  · exact ⟨left / right, left % right, if_neg nonzero, if_neg nonzero, toInt_quotient left right,
      toInt_remainder left right, natAbs_remainder_lt left nonzero, sign_remainder left right,
      quotient_mul_add_remainder left right⟩
  · have product := toInt_shiftLeft_modEq left (shiftDistance right)
    rw [← eq_ofInt_iff] at product
    refine ⟨_, rfl, fun value => ?_⟩
    rw [product, distance, eq_ofInt_iff]
  · exact ⟨_, rfl, by rw [toInt_shiftRight, distance]⟩

theorem minValue_by_minus_one_exact :
    (-1 : Int64) ≠ 0 ∧ ∃ quotient remainder,
      BinaryOperator.div.apply Int64.minValue (-1) = .ok quotient ∧
        BinaryOperator.mod.apply Int64.minValue (-1) = .ok remainder ∧
        quotient.toInt = -2 ^ 63 ∧ remainder.toInt = 0 := by
  have nonzero : (-1 : Int64) ≠ 0 := by decide
  obtain ⟨quotient, remainder, divided, left, truncated, rest, -⟩ :=
    (quotients_and_shifts_exact Int64.minValue (-1)).2.2.1 nonzero
  exact ⟨nonzero, quotient, remainder, divided, left, truncated, rest⟩

end ShellTree
