import Mathlib.Data.List.TakeWhile
import ShellTree.Json.Token

/-!
# Numerals of integers

The text of an integer is read as that integer: it has no leading zero, and a
magnitude of at most 64 bits is far from the limit of doubles.
-/

namespace ShellTree

namespace Double

theorem round_le (number : Nat) : round number ≤ 2 * number := by
  by_cases zero : number = 0
  · subst zero
    decide
  have unit_le : Nat.pow 2 (number.log2 - 52) ≤ number :=
    Nat.le_trans (Nat.pow_le_pow_right (by decide) (Nat.sub_le _ _)) (Nat.log2_self_le zero)
  have count_le := Nat.div_mul_le_self number (Nat.pow 2 (number.log2 - 52))
  unfold round
  dsimp only
  split
  · rw [Nat.add_mul, Nat.one_mul]
    omega
  · omega

theorem fitsRounded_of_lt {magnitude : Nat} (small : magnitude < UInt64.size) :
    fitsRounded magnitude 0 = true := by
  have rounded := round_le magnitude
  have below : 2 * UInt64.size < limit := by decide +kernel
  have one : round (Nat.pow 10 (0 + (0 : Nat) : Int).toNat) = 1 := by decide
  have bound : round magnitude * 1 < limit := by omega
  simp only [fitsRounded, leading, if_pos small, one, bound]
  simp

end Double

namespace Numeral

theorem isFinite_of_lt {magnitude : Nat} (small : magnitude < UInt64.size) (negative : Bool) :
    isFinite (.integer negative magnitude) = true :=
  Double.fitsRounded_of_lt small

/-- A number other than zero has no leading zero. -/
theorem head?_toDigits {number : Nat} (positive : number ≠ 0) :
    (Nat.toDigits 10 number).head? ≠ some '0' := by
  induction number using Nat.strongRecOn with
  | ind number ih =>
      by_cases small : number < 10
      · have table : ∀ digit : Fin 10, digit.val ≠ 0 → some digit.val.digitChar ≠ some '0' := by
          decide
        rw [Nat.toDigits_of_lt_base small]
        exact table ⟨number, small⟩ positive
      · have lead := ih (number / 10) (by omega) (by omega)
        obtain ⟨first, rest, digits⟩ := List.exists_cons_of_ne_nil
          (Nat.toDigits_ne_nil : Nat.toDigits 10 (number / 10) ≠ [])
        rw [digits] at lead
        rw [Nat.toDigits_of_base_le (by decide) (by omega), digits]
        exact lead

theorem all_isDigit_toDigits (number : Nat) :
    ∀ digit ∈ Nat.toDigits 10 number, digit.isDigit = true :=
  fun _ member => Nat.isDigit_of_mem_toDigits (by decide) (by decide) member

theorem unsigned?_toDigits (negative : Bool) (magnitude : Nat) :
    unsigned? negative (Nat.toDigits 10 magnitude) = some (.integer negative magnitude) := by
  have digits := all_isDigit_toDigits magnitude
  have taken : (Nat.toDigits 10 magnitude).takeWhile Char.isDigit = Nat.toDigits 10 magnitude :=
    List.takeWhile_eq_self_iff.mpr digits
  have dropped : (Nat.toDigits 10 magnitude).dropWhile Char.isDigit = [] :=
    List.dropWhile_eq_nil_iff.mpr digits
  have proper : ((Nat.toDigits 10 magnitude).isEmpty ||
      ((Nat.toDigits 10 magnitude).head? == some '0' &&
        (Nat.toDigits 10 magnitude).length != 1)) = false := by
    have nonempty : (Nat.toDigits 10 magnitude).isEmpty = false :=
      List.isEmpty_eq_false_iff.mpr Nat.toDigits_ne_nil
    by_cases zero : magnitude = 0
    · subst zero
      rfl
    · have lead : ((Nat.toDigits 10 magnitude).head? == some '0') = false :=
        beq_eq_false_iff_ne.mpr (head?_toDigits zero)
      rw [nonempty, lead]
      rfl
  simp only [unsigned?, taken, dropped, proper]
  simp

/-- The text of an integer is read as that integer. -/
theorem ofChars?_chars (negative : Bool) (magnitude : Nat) :
    ofChars? (chars (.integer negative magnitude)) = some (.integer negative magnitude) := by
  cases negative with
  | true => exact unsigned?_toDigits true magnitude
  | false =>
      have digits := all_isDigit_toDigits magnitude
      have read := unsigned?_toDigits false magnitude
      change ofChars? (Nat.toDigits 10 magnitude) = _
      generalize Nat.toDigits 10 magnitude = text at digits read
      unfold ofChars?
      split
      · next rest =>
          have minus := digits '-' (by simp)
          exact absurd minus (by decide)
      · exact read

end Numeral

end ShellTree
