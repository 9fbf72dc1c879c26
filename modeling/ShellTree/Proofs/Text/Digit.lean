import Mathlib.Algebra.Group.Nat.Defs
import Mathlib.Data.List.Induction
import ShellTree.Text.Digit

/-!
# Numbers written in digits

The digits are those of the decimal numerals and the first six letters, in either
case.  Digits of a base in a row write a number, the highest digit first.  Reading
them gives this number, and every number can be written in each width that has
room for it.
-/

namespace ShellTree.Digit

def lowerFigures : List Char :=
  ['0', '1', '2', '3', '4', '5', '6', '7', '8', '9', 'a', 'b', 'c', 'd', 'e', 'f']

def upperFigures : List Char :=
  ['0', '1', '2', '3', '4', '5', '6', '7', '8', '9', 'A', 'B', 'C', 'D', 'E', 'F']

def IsFigure (char : Char) : Prop :=
  char ∈ lowerFigures ∨ char ∈ upperFigures

instance (char : Char) : Decidable (IsFigure char) :=
  inferInstanceAs (Decidable (_ ∨ _))

/-- The character is the digit with the given value, in either case. -/
def Figure (value : Nat) (char : Char) : Prop :=
  lowerFigures[value]? = some char ∨ upperFigures[value]? = some char

instance (value : Nat) (char : Char) : Decidable (Figure value char) :=
  inferInstanceAs (Decidable (_ ∨ _))

/-- The characters write the number in the given base, the highest digit first. -/
inductive Writes (base : Nat) : Nat → List Char → Prop where
  | nil : Writes base 0 []
  | snoc {number value : Nat} {digits : List Char} {char : Char}
      (before : Writes base number digits) (small : value < base) (figure : Figure value char) :
      Writes base (base * number + value) (digits ++ [char])

/-- The character with a code point has this code point. -/
theorem toNat_ofNat {code : Nat} (valid : code.isValidChar) : (Char.ofNat code).toNat = code := by
  rw [Char.ofNat, dif_pos valid]
  rfl

/-! ## The value of one digit -/

theorem hexValue?_of_table {figures : List Char}
    (table : figures.map hexValue? = (List.range 16).map some) {value : Nat} {char : Char}
    (place : figures[value]? = some char) : hexValue? char = some value := by
  have entry := congrArg (fun values => values[value]?) table
  simp only [List.getElem?_map, place, Option.map_some] at entry
  obtain ⟨number, found, same⟩ := Option.map_eq_some_iff.mp entry.symm
  obtain ⟨inside, number_eq⟩ := List.getElem?_eq_some_iff.mp found
  rw [← same, ← number_eq, List.getElem_range]

theorem Figure.hexValue? {value : Nat} {char : Char} (figure : Figure value char) :
    Digit.hexValue? char = some value := by
  rcases figure with lower | upper
  · exact hexValue?_of_table (by decide) lower
  · exact hexValue?_of_table (by decide) upper

theorem Figure.value? {base value : Nat} {char : Char} (figure : Figure value char)
    (small : value < base) : Digit.value? base char = some value := by
  rw [Digit.value?, figure.hexValue?, Option.filter_some, if_pos (decide_eq_true small)]

theorem Figure.isDigitOf {base value : Nat} {char : Char} (figure : Figure value char)
    (small : value < base) : Digit.isDigitOf base char = true := by
  rw [Digit.isDigitOf, figure.value? small]
  rfl

theorem figure_of_code (first count shift : Nat)
    (table : ∀ place : Fin count, Figure (place.val + shift) (Char.ofNat (first + place.val)))
    {char : Char} (low : first ≤ char.toNat) (high : char.toNat < first + count) :
    Figure (char.toNat - first + shift) char := by
  have entry := table ⟨char.toNat - first, by omega⟩
  have code : first + (char.toNat - first) = char.toNat := by omega
  rwa [code, Char.ofNat_toNat] at entry

/-- What is read as a digit is the digit with this value. -/
theorem figure_of_hexValue? {value : Nat} {char : Char} (read : hexValue? char = some value) :
    Figure value char := by
  unfold hexValue? at read
  split at read
  · next decimal =>
      obtain ⟨low, high⟩ := (Bool.and_eq_true _ _).mp decimal
      have low : 48 ≤ char.toNat := of_decide_eq_true low
      have high : char.toNat ≤ 57 := of_decide_eq_true high
      cases read
      exact figure_of_code 48 10 0 (by decide) low (by omega)
  · split at read
    · next lower =>
        have low : 97 ≤ char.toNat := lower.1
        have high : char.toNat ≤ 102 := lower.2
        cases read
        exact figure_of_code 97 6 10 (by decide) low (by omega)
    · split at read
      · next upper =>
          have low : 65 ≤ char.toNat := upper.1
          have high : char.toNat ≤ 70 := upper.2
          cases read
          exact figure_of_code 65 6 10 (by decide) low (by omega)
      · cases read

theorem exists_figure_of_isDigitOf {base : Nat} {char : Char}
    (digit : isDigitOf base char = true) :
    ∃ value, value? base char = some value ∧ value < base ∧ Figure value char := by
  obtain ⟨value, read⟩ := Option.isSome_iff_exists.mp digit
  obtain ⟨read', small⟩ := Option.filter_eq_some_iff.mp read
  exact ⟨value, read, of_decide_eq_true small, figure_of_hexValue? read'⟩

/-- What is read as a digit of any base is a hexadecimal digit. -/
theorem isFigure_of_isDigitOf {base : Nat} {char : Char} (digit : isDigitOf base char = true) :
    IsFigure char := by
  obtain ⟨value, -, -, lower | upper⟩ := exists_figure_of_isDigitOf digit
  · exact .inl (List.mem_of_getElem? lower)
  · exact .inr (List.mem_of_getElem? upper)

/-! ## Reading what was written -/

theorem toNat_snoc (base : Nat) (digits : List Char) (digit : Char) :
    toNat base (digits ++ [digit]) = base * toNat base digits + (value? base digit).getD 0 := by
  simp only [toNat, List.foldl_append, List.foldl_cons, List.foldl_nil]

namespace Writes

variable {base number : Nat} {digits : List Char}

theorem toNat (written : Writes base number digits) : Digit.toNat base digits = number := by
  induction written with
  | nil => rfl
  | snoc before small figure ih =>
      rw [toNat_snoc, ih, figure.value? small, Option.getD_some]

theorem isDigitOf (written : Writes base number digits) :
    ∀ digit ∈ digits, Digit.isDigitOf base digit = true := by
  induction written with
  | nil =>
      intro digit member
      cases member
  | snoc before small figure ih =>
      intro digit member
      rcases List.mem_append.mp member with earlier | last
      · exact ih digit earlier
      · rw [List.mem_singleton.mp last]
        exact figure.isDigitOf small

theorem of_isDigitOf (all : ∀ digit ∈ digits, Digit.isDigitOf base digit = true) :
    Writes base (Digit.toNat base digits) digits := by
  induction digits using List.reverseRecOn with
  | nil => exact .nil
  | append_singleton digits digit ih =>
      obtain ⟨value, read, small, figure⟩ := exists_figure_of_isDigitOf (all digit (by simp))
      have before := ih fun digit member => all digit (List.mem_append_left _ member)
      rw [toNat_snoc, read, Option.getD_some]
      exact before.snoc small figure

end Writes

/-- Digits write the number that is read from them, and no other. -/
theorem writes_iff {base number : Nat} {digits : List Char} :
    Writes base number digits ↔
      (∀ digit ∈ digits, isDigitOf base digit = true) ∧ toNat base digits = number := by
  constructor
  · intro written
    exact ⟨written.isDigitOf, written.toNat⟩
  · rintro ⟨all, rfl⟩
    exact .of_isDigitOf all

/-- A number has digits in each width that has room for it. -/
theorem exists_writes {base : Nat} (positive : 0 < base) (known : base ≤ 16) (width : Nat)
    {number : Nat} (room : number < base ^ width) :
    ∃ digits, digits.length = width ∧ Writes base number digits := by
  induction width generalizing number with
  | zero =>
      have zero : number = 0 := by simpa using room
      exact ⟨[], rfl, zero ▸ .nil⟩
  | succ width ih =>
      have fewer : number / base < base ^ width := Nat.div_lt_of_lt_mul (by
        rwa [Nat.mul_comm, ← Nat.pow_succ])
      obtain ⟨digits, length, written⟩ := ih fewer
      have small : number % base < base := Nat.mod_lt number positive
      have inside : number % base < lowerFigures.length := Nat.lt_of_lt_of_le small known
      have figure : Figure (number % base) lowerFigures[number % base] :=
        .inl (List.getElem?_eq_getElem inside)
      refine ⟨digits ++ [lowerFigures[number % base]], by simp [length], ?_⟩
      have next := written.snoc small figure
      rwa [Nat.div_add_mod] at next

end ShellTree.Digit
