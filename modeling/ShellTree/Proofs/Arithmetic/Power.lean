import Mathlib.NumberTheory.Multiplicity
import ShellTree.Proofs.Arithmetic.Wrapping

/-!
# Powers that wrap around

Repeated squaring gives the power modulo `2 ^ 64`.  The operator takes no exponent
above `2 ^ 32 - 1`; a larger one counts as this one.  Whether its value is then still
the wrapped power depends on the order of the base among the odd numbers modulo
`2 ^ 64`, and this order is a power of two.
-/

namespace ShellTree

/-! ## Repeated squaring -/

theorem ofInt_toInt_mul_self_pow (base : Int64) (half : Nat) :
    Int64.ofInt ((base * base).toInt ^ half) = Int64.ofInt (base.toInt ^ (2 * half)) := by
  have square : (base * base).toInt ≡ base.toInt ^ 2 [ZMOD 2 ^ 64] := by
    rw [← eq_ofInt_iff, pow_two, Int64.ofInt_mul, Int64.ofInt_toInt]
  rw [ofInt_eq_ofInt_iff, pow_mul]
  exact square.pow half

/-- Repeated squaring gives the wrapped power. -/
theorem power_eq_ofInt (base : Int64) (exponent : Nat) :
    power base exponent = Int64.ofInt (base.toInt ^ exponent) := by
  fun_induction power base exponent with
  | case1 base =>
      rw [pow_zero]
      rfl
  | case2 base exponent positive square odd ih =>
      have halves : exponent = 2 * (exponent / 2) + 1 := by omega
      have factor : square = Int64.ofInt (base.toInt ^ (2 * (exponent / 2))) :=
        ih.trans (ofInt_toInt_mul_self_pow base _)
      rw [factor, halves, pow_succ', Int64.ofInt_mul, Int64.ofInt_toInt, ← halves]
  | case3 base exponent positive square even ih =>
      have halves : 2 * (exponent / 2) = exponent := by omega
      have factor : square = Int64.ofInt (base.toInt ^ (2 * (exponent / 2))) :=
        ih.trans (ofInt_toInt_mul_self_pow base _)
      rw [factor, halves]

/-! ## Orders of odd numbers -/

/-- An odd power of an odd number is no closer to one than the number itself. -/
theorem two_pow_dvd_odd_pow_sub_one_iff {base : Int} (odd : Odd base) {count : Nat}
    (oddCount : Odd count) (bits : Nat) :
    2 ^ bits ∣ base ^ count - 1 ↔ 2 ^ bits ∣ base - 1 := by
  have even : 2 ∣ base - 1 := (odd.sub_odd odd_one).two_dvd
  have indivisible : ¬ 2 ∣ base := Int.two_dvd_ne_zero.mpr (Int.odd_iff.mp odd)
  have indivisibleCount : ¬ (2 : Int) ∣ count :=
    Int.two_dvd_ne_zero.mpr (Int.odd_iff.mp (Int.odd_coe_nat count |>.mpr oddCount))
  have same := emultiplicity_pow_sub_pow_of_prime Int.prime_two even indivisible indivisibleCount
  rw [one_pow] at same
  rw [pow_dvd_iff_le_emultiplicity, pow_dvd_iff_le_emultiplicity, same]

/-- An even power of an odd number is as close to one as the distance of its square from one
and the count of its factors make it. -/
theorem two_pow_dvd_even_pow_sub_one_iff {base : Int} (odd : Odd base) {count : Nat}
    (evenCount : Even count) (bits : Nat) :
    2 ^ bits ∣ base ^ count - 1 ↔ 2 ^ (bits + 1) ∣ (base ^ 2 - 1) * count := by
  have even : 2 ∣ base - 1 := (odd.sub_odd odd_one).two_dvd
  have indivisible : ¬ 2 ∣ base := Int.two_dvd_ne_zero.mpr (Int.odd_iff.mp odd)
  have lifted := Int.two_pow_sub_pow even indivisible evenCount
  have square : base ^ 2 - 1 = (base + 1) * (base - 1) := by ring
  rw [one_pow, ← emultiplicity_mul Int.prime_two, ← emultiplicity_mul Int.prime_two,
    ← square] at lifted
  rw [pow_dvd_iff_le_emultiplicity, pow_dvd_iff_le_emultiplicity, ← lifted, Nat.cast_add,
    Nat.cast_one]
  exact (ENat.add_le_add_iff_right ENat.one_ne_top).symm

/-- The numbers of 64 bits whose powers come back to one, and when they do.  An odd power does so
for one alone, since no other number of 64 bits is that close to one. -/
theorem two_pow_64_dvd_pow_sub_one_iff (base : Int64) (odd : Odd base.toInt) (count : Nat) :
    2 ^ 64 ∣ base.toInt ^ count - 1 ↔
      base = 1 ∨ Even count ∧ 2 ^ 65 ∣ (base.toInt ^ 2 - 1) * count := by
  have one : base = 1 ↔ base.toInt = 1 := Int64.toInt_inj.symm
  rcases Nat.even_or_odd count with evenCount | oddCount
  · rw [two_pow_dvd_even_pow_sub_one_iff odd evenCount]
    constructor
    · exact fun divides => .inr ⟨evenCount, divides⟩
    · rintro (same | ⟨-, divides⟩)
      · simp [one.mp same]
      · exact divides
  · rw [two_pow_dvd_odd_pow_sub_one_iff odd oddCount, one]
    constructor
    · intro divides
      have low := base.le_toInt
      have high := base.toInt_lt
      left
      omega
    · rintro (same | ⟨evenCount, -⟩)
      · simp [same]
      · exact absurd evenCount (Nat.not_even_iff_odd.mpr oddCount)

/-- More factors make no difference to a power of an even number, which has become zero, and
none to a power of an odd number if they come back to one. -/
theorem pow_modEq_pow_add_iff (base : Int) {few : Nat} (enough : 64 ≤ few) (more : Nat) :
    base ^ few ≡ base ^ (few + more) [ZMOD 2 ^ 64] ↔
      Even base ∨ 2 ^ 64 ∣ base ^ more - 1 := by
  have factored : base ^ (few + more) - base ^ few = base ^ few * (base ^ more - 1) := by ring
  rw [Int.modEq_iff_dvd, factored]
  rcases Int.even_or_odd base with even | odd
  · have vanishes : 2 ^ 64 ∣ base ^ few :=
      (pow_dvd_pow_of_dvd even.two_dvd 64).trans (pow_dvd_pow base enough)
    exact ⟨fun _ => .inl even, fun _ => vanishes.mul_right _⟩
  · have indivisible : ¬ 2 ∣ base ^ few := Int.two_dvd_ne_zero.mpr (Int.odd_iff.mp odd.pow)
    constructor
    · exact fun divides => .inr (Int.prime_two.pow_dvd_of_dvd_mul_left 64 indivisible divides)
    · rintro (even | divides)
      · exact absurd even (Int.not_even_iff_odd.mpr odd)
      · exact divides.mul_left _

/-! ## The operator -/

/-- The wrapped power with the whole exponent. -/
def wrappedPower (base exponent : Int64) : Except Failure Int64 :=
  if exponent < 0 then .error .negativeExponent
  else .ok (Int64.ofInt (base.toInt ^ exponent.toInt.toNat))

theorem pow_apply_eq_capped (base exponent : Int64) :
    BinaryOperator.pow.apply base exponent =
      if exponent < 0 then .error .negativeExponent
      else .ok (Int64.ofInt (base.toInt ^ min exponent.toInt.toNat maxExponent)) := by
  unfold BinaryOperator.apply
  simp only [power_eq_ofInt, ← Int64.toNat_toInt]

/-- Above the largest exponent the value is the wrapped power if the base is even, and if it is
odd and the factors that are left out come back to one. -/
theorem ofInt_pow_max_iff (base : Int64) (more : Nat) :
    Int64.ofInt (base.toInt ^ maxExponent) = Int64.ofInt (base.toInt ^ (maxExponent + more)) ↔
      Even base.toInt ∨ base = 1 ∨ Even more ∧ 2 ^ 65 ∣ (base.toInt ^ 2 - 1) * more := by
  rw [ofInt_eq_ofInt_iff, pow_modEq_pow_add_iff _ (by decide)]
  rcases Int.even_or_odd base.toInt with even | odd
  · simp only [even, true_or]
  · rw [two_pow_64_dvd_pow_sub_one_iff base odd]

/-- A negative exponent fails, and any other one gives the wrapped power with at most
`2 ^ 32 - 1` factors.  This is the wrapped power exactly if the exponent is no larger, the
base is even or one, or the exponent is odd and the square of the base is close enough to one. -/
theorem pow_apply_exact (base exponent : Int64) :
    BinaryOperator.pow.apply base exponent =
        (if exponent < 0 then .error .negativeExponent
        else .ok (Int64.ofInt (base.toInt ^ min exponent.toInt.toNat (2 ^ 32 - 1)))) ∧
      (BinaryOperator.pow.apply base exponent = wrappedPower base exponent ↔
        exponent.toInt < 2 ^ 32 ∨ Even base.toInt ∨ base = 1 ∨
          Odd exponent.toInt ∧
            2 ^ 65 ∣ (base.toInt ^ 2 - 1) * (exponent.toInt - (2 ^ 32 - 1))) := by
  refine ⟨pow_apply_eq_capped base exponent, ?_⟩
  rw [pow_apply_eq_capped, wrappedPower]
  have max : (maxExponent : Int) = 2 ^ 32 - 1 := rfl
  by_cases small : exponent.toInt < 2 ^ 32
  · have within : exponent.toInt.toNat ≤ maxExponent := by
      omega
    simp only [small, true_or, Nat.min_eq_left within]
  · obtain ⟨more, whole⟩ : ∃ more : Nat, exponent.toInt = maxExponent + more :=
      ⟨exponent.toInt.toNat - maxExponent, by omega⟩
    have nonnegative : ¬ exponent < 0 := by
      rw [Int64.lt_iff_toInt_lt, whole]
      exact Int.not_lt.mpr (Int.natCast_nonneg _)
    have exponent_eq : exponent.toInt.toNat = maxExponent + more := by omega
    have parity : Odd exponent.toInt ↔ Even more := by
      rw [Int.odd_iff, Nat.even_iff]
      omega
    have above : maxExponent ≤ maxExponent + more := Nat.le_add_right _ _
    have left : exponent.toInt - (2 ^ 32 - 1) = more := by omega
    rw [if_neg nonnegative, if_neg nonnegative, Except.ok.injEq, exponent_eq,
      Nat.min_eq_right above, ofInt_pow_max_iff, parity, left]
    simp only [small, false_or]

/-- The even exponent `2 ^ 32` counts as an odd one, so it does not make minus one positive. -/
theorem neg_one_pow_above_max :
    BinaryOperator.pow.apply (-1) 4294967296 = .ok (-1) ∧
      wrappedPower (-1) 4294967296 = .ok 1 ∧
      BinaryOperator.pow.apply (-1) 4294967296 ≠ wrappedPower (-1) 4294967296 := by
  have minus : (-1 : Int64).toInt = -1 := rfl
  have capped : BinaryOperator.pow.apply (-1) 4294967296 = .ok (-1) := by
    have odd : Odd (min (4294967296 : Int64).toInt.toNat maxExponent) := by decide
    rw [pow_apply_eq_capped, if_neg (by decide), minus, odd.neg_one_pow]
    rfl
  have whole : wrappedPower (-1) 4294967296 = .ok 1 := by
    have even : Even (4294967296 : Int64).toInt.toNat := by decide
    rw [wrappedPower, if_neg (by decide), minus, even.neg_one_pow]
    rfl
  refine ⟨capped, whole, ?_⟩
  rw [capped, whole]
  decide

end ShellTree
